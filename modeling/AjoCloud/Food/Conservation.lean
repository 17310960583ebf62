import AjoCloud.Food.Escrow

/-!
# The escrow of a programme is what its members paid

The laws of the money of the programmes, over every run: the escrow of a programme holds what its
subscriptions say was paid, a subscription is paid in full or not at all, the portions that are taken
fit the programme, and a package keeps its price from the first subscription on.
-/

namespace AjoCloud.Food

open Lib ServiceError Ledger Payments

variable {s s' : Desk} {call : Call} {db db' : Db}

/-- What the subscriptions of a programme say was paid. -/
def paidTotal (db : Db) (programmeId : Uuid) : Int :=
  sumWhere db.food.subscriptions.rows (fun x ↦ x.groupId = programmeId) (·.amountPaidMinor)

/-- The balance of the escrow of a programme. -/
def escrowBalance (db : Db) (programmeId : Uuid) : Int :=
  db.ledger.codeBalance (escrowAccountCode programmeId)

/-! ## The invariant -/

/-- A subscription is paid in full, and its refund can be posted, or nothing is paid on it. -/
inductive Settlement (s : Desk) (x : FoodSubscription) (p : FoodPackage) : Prop
  | active (status : x.status = .active)
      (full : x.amountPaidMinor = subscriptionTotalMinor p.priceMinor x.quantity)
      (pos : 0 < x.amountPaidMinor) (paidAt : Timestamp) (stamped : x.paidAt = some paidAt)
      (noted : paidAt ∈ s.payments)
      (unused : ∀ t ∈ s.db.ledger.transactions.rows,
        t.idempotencyKey ≠ refundKey x.id (some paidAt))
  | unpaid (status : x.status = .pending ∨ x.status = .cancelled) (zero : x.amountPaidMinor = 0)

/-- A subscription belongs to a programme, for a package of it whose price is locked. -/
structure InOrder (s : Desk) (x : FoodSubscription) : Prop where
  group : ∃ g ∈ s.db.food.groups.rows, g.id = x.groupId
  quantity : 1 ≤ x.quantity
  package : ∃ p ∈ s.db.food.packages.rows, p.id = x.packageId ∧ p.priceLockedAt ≠ none ∧
    Settlement s x p

/-- What holds in every state. -/
structure Sound (s : Desk) : Prop where
  intents : IntentsPosted s.db
  refunds : ∀ t ∈ s.db.ledger.transactions.rows, ∀ id paidAt,
    t.idempotencyKey = refundKey id (some paidAt) → paidAt ∈ s.payments
  unlocked : ∀ p ∈ s.db.food.packages.rows, p.priceLockedAt = none →
    ∀ g ∈ s.db.food.groups.rows, g.id = p.groupId → g.status = .draft ∨ g.status = .cancelled
  subscriptions : ∀ x ∈ s.db.food.subscriptions.rows, InOrder s x
  capacity : ∀ g ∈ s.db.food.groups.rows, enrolledPortions s.db g.id ≤ g.enrolmentCapacity
  balance : ∀ g, escrowBalance s.db g = paidTotal s.db g

theorem group_eq_of_id {g g' : FoodAjoGroup} (hg : g ∈ db.food.groups.rows)
    (hg' : g' ∈ db.food.groups.rows) (h : g.id = g'.id) : g = g' :=
  db.food.groups.eq_of_clash hg hg' h

theorem package_eq_of_id {p p' : FoodPackage} (hp : p ∈ db.food.packages.rows)
    (hp' : p' ∈ db.food.packages.rows) (h : p.id = p'.id) : p = p' :=
  db.food.packages.eq_of_clash hp hp' h

theorem subscription_eq_of_id {x x' : FoodSubscription} (hx : x ∈ db.food.subscriptions.rows)
    (hx' : x' ∈ db.food.subscriptions.rows) (h : x.id = x'.id) : x = x' :=
  db.food.subscriptions.eq_of_clash hx hx' (.inl h)

/-- The subscriptions after one of them was rewritten. -/
theorem mem_rewriteSubscription {x y : FoodSubscription} {m : FoodSubscription → FoodSubscription}
    (hx : x ∈ db.food.subscriptions.rows)
    (hy : y ∈ db.food.subscriptions.rows.map fun z ↦
      if decide (z.id = x.id) = true then m z else z) :
    (y ∈ db.food.subscriptions.rows ∧ y.id ≠ x.id) ∨ y = m x := by
  refine (mem_rewrite (fun z hz hid ↦ ?_) hy).imp_left fun h ↦ ⟨h.1, of_decide_eq_false h.2⟩
  exact subscription_eq_of_id hz hx (of_decide_eq_true hid)

/-! ## What a step leaves of the programmes and packages -/

/-- Programmes stay, with their capacity. -/
theorem Effect.groups (h : Effect s call s') {g : FoodAjoGroup} (hg : g ∈ s.db.food.groups.rows) :
    ∃ g' ∈ s'.db.food.groups.rows, g'.id = g.id ∧ g'.enrolmentCapacity = g.enrolmentCapacity := by
  cases h with
  | aside _ h => exact ⟨g, by rw [h.groups]; exact hg, rfl, rfl⟩
  | created _ g' ps h =>
      refine ⟨g, ?_, rfl, rfl⟩
      rw [insertRow_eq_ok h.groups]
      exact List.mem_append_left _ hg
  | moved _ ctx _ g₀ status _ h =>
      refine ⟨_, h.groups ▸ List.mem_map_of_mem hg, ?_⟩
      split
      · exact ⟨rfl, rfl⟩
      · exact ⟨rfl, rfl⟩
  | edited _ p dto h => exact ⟨g, by rw [h.after]; exact hg, rfl, rfl⟩
  | subscribed _ x _ _ after => exact ⟨g, by rw [after]; exact hg, rfl, rfl⟩
  | paid _ _ _ e h => exact ⟨g, by rw [h.groups]; exact hg, rfl, rfl⟩
  | withdrawn _ _ _ _ _ e h => exact ⟨g, by rw [h.groups]; exact hg, rfl, rfl⟩

/-- A package whose price is locked stays as it is. -/
theorem Effect.locked (h : Effect s call s') {p : FoodPackage} (hp : p ∈ s.db.food.packages.rows)
    (hlocked : p.priceLockedAt ≠ none) : p ∈ s'.db.food.packages.rows := by
  cases h with
  | aside _ h => exact h.packages ▸ hp
  | created _ g ps h =>
      rw [h.packages]
      exact List.mem_append_left _ hp
  | moved _ ctx _ g status _ h =>
      rw [h.packages]
      split
      · refine List.mem_map.mpr ⟨p, hp, if_neg ?_⟩
        rw [decide_eq_true_eq]
        exact fun hopen ↦ hlocked hopen.2
      · exact hp
  | edited _ q dto h =>
      rw [h.packages]
      refine List.mem_map.mpr ⟨p, hp, if_neg ?_⟩
      rw [decide_eq_true_eq]
      intro hid
      exact hlocked (package_eq_of_id hp h.mem hid ▸ h.unlocked)
  | subscribed _ x _ _ after =>
      rw [after]
      exact hp
  | paid _ _ _ e h => exact h.packages ▸ hp
  | withdrawn _ _ _ _ _ e h => exact h.packages ▸ hp

/-- The payments that were made are remembered. -/
theorem Effect.payments_subset (h : Effect s call s') {t : Timestamp} (ht : t ∈ s.payments) :
    t ∈ s'.payments := by
  cases h with
  | aside payments => exact payments ▸ ht
  | created payments => exact payments ▸ ht
  | moved payments => exact payments ▸ ht
  | edited payments => exact payments ▸ ht
  | subscribed payments => exact payments ▸ ht
  | paid _ _ payments => exact payments ▸ List.mem_append_left _ ht
  | withdrawn payments => exact payments ▸ ht

/-- A key of a refund that is used after a step was used before, or a member withdrew what they
paid. -/
theorem Effect.refundKey (h : Effect s call s') {t : LedgerTransaction}
    (ht : t ∈ s'.db.ledger.transactions.rows) {id : Uuid} {paidAt : Option Timestamp}
    (hkey : t.idempotencyKey = refundKey id paidAt) :
    (∃ t' ∈ s.db.ledger.transactions.rows, t'.idempotencyKey = Food.refundKey id paidAt) ∨
      ∃ userId programmeId e, Withdrawn s.db s'.db userId programmeId e ∧
        0 < e.subscription.amountPaidMinor ∧
        t.idempotencyKey = Food.refundKey e.subscription.id e.subscription.paidAt := by
  cases h with
  | aside _ h => exact .inl (h.refunds t ht id paidAt hkey)
  | created _ g ps h => exact .inl ⟨t, by rw [h.after] at ht; exact ht, hkey⟩
  | moved _ ctx _ g status _ h => exact .inl ⟨t, by rw [h.after] at ht; exact ht, hkey⟩
  | edited _ p dto h => exact .inl ⟨t, by rw [h.after] at ht; exact ht, hkey⟩
  | subscribed _ x _ _ after => exact .inl ⟨t, by rw [after] at ht; exact ht, hkey⟩
  | paid _ _ _ e h =>
      obtain ⟨t', i, k, hrows, hk⟩ := h.posted
      rw [hrows, List.mem_append, List.mem_singleton] at ht
      rcases ht with ht | rfl
      · exact .inl ⟨t, ht, hkey⟩
      · exact absurd (hkey.symm.trans hk) (refundKey_ne_intentKey _ _ _ _)
  | withdrawn _ _ userId programmeId _ e h =>
      rcases h.posted t ht with ht | ⟨hpos, hk⟩
      · exact .inl ⟨t, ht, hkey⟩
      · exact .inr ⟨userId, programmeId, e, h, hpos, hk⟩

/-- What was withdrawn is stored as withdrawn. -/
theorem Withdrawn.mem {userId programmeId : Uuid} {e : Enrolment}
    (h : Withdrawn db db' userId programmeId e) :
    markCancelled e.subscription ∈ db'.food.subscriptions.rows := by
  rw [h.subscriptions]
  refine List.mem_map.mpr ⟨e.subscription, h.stored.subscription, if_pos ?_⟩
  exact decide_eq_true rfl

/-! ## The step, law by law -/

theorem Effect.intentsPosted (he : Effect s call s') (h : IntentsPosted s.db) :
    IntentsPosted s'.db := by
  cases he with
  | aside _ ha => exact ha.intents h
  | created _ g ps ha => exact h.congr (by rw [ha.after]) (by rw [ha.after])
  | moved _ ctx _ g status _ ha => exact h.congr (by rw [ha.after]) (by rw [ha.after])
  | edited _ p dto ha => exact h.congr (by rw [ha.after]) (by rw [ha.after])
  | subscribed _ x _ _ after => exact h.congr (by rw [after]) (by rw [after])
  | paid _ _ _ e ha => exact ha.intents
  | withdrawn _ _ _ _ _ e ha =>
      intro t ht i k hk
      rw [ha.intents]
      rcases ha.posted t ht with ht | ⟨-, hkey⟩
      · exact h t ht i k hk
      · exact absurd (hkey.symm.trans hk) (refundKey_ne_intentKey _ _ _ _)

/-- A paid subscription is an active one, with the time of its payment. -/
theorem InOrder.stamped {x : FoodSubscription} (h : InOrder s x) (hpos : 0 < x.amountPaidMinor) :
    ∃ paidAt ∈ s.payments, x.paidAt = some paidAt ∧
      ∀ t ∈ s.db.ledger.transactions.rows, t.idempotencyKey ≠ refundKey x.id (some paidAt) := by
  obtain ⟨p, -, -, -, hsettlement⟩ := h.package
  cases hsettlement with
  | active _ _ _ paidAt stamped noted unused => exact ⟨paidAt, noted, stamped, unused⟩
  | unpaid _ zero => omega

theorem InOrder.nonneg {x : FoodSubscription} (h : InOrder s x) : 0 ≤ x.amountPaidMinor := by
  obtain ⟨p, -, -, -, hsettlement⟩ := h.package
  cases hsettlement with
  | active _ _ pos => exact le_of_lt pos
  | unpaid _ zero => exact le_of_eq zero.symm

theorem InOrder.refundable {x : FoodSubscription} (h : InOrder s x) : Refundable s.db x := by
  refine ⟨h.nonneg, fun hpos ↦ ?_⟩
  obtain ⟨paidAt, -, hstamped, hunused⟩ := h.stamped hpos
  rw [hstamped]
  exact hunused

theorem Sound.refunds_step (h : Sound s) (he : Effect s call s') :
    ∀ t ∈ s'.db.ledger.transactions.rows, ∀ id paidAt,
      t.idempotencyKey = refundKey id (some paidAt) → paidAt ∈ s'.payments := by
  intro t ht id paidAt hkey
  rcases he.refundKey ht hkey with ⟨t', ht', hkey'⟩ | ⟨_, _, e, hw, hpos, hkey'⟩
  · exact he.payments_subset (h.refunds t' ht' id paidAt hkey')
  · obtain ⟨paidAt', hnoted, hstamped, -⟩ :=
      (h.subscriptions _ hw.stored.subscription).stamped hpos
    rw [hkey, hstamped] at hkey'
    obtain rfl : paidAt = paidAt' := (refundKey_inj hkey').2
    exact he.payments_subset hnoted

/-- A draft is opened or called off. -/
theorem cancelled_of_canTransition {status next : FoodAjoStatus}
    (h : canTransitionProgramme status next = true)
    (hfrom : status = .draft ∨ status = .cancelled) (hnext : next ≠ .open) : next = .cancelled := by
  rcases hfrom with rfl | rfl
  · simpa [canTransitionProgramme, hnext] using h
  · cases h

theorem Sound.unlocked_step (h : Sound s) (he : Effect s call s') :
    ∀ p ∈ s'.db.food.packages.rows, p.priceLockedAt = none →
      ∀ g ∈ s'.db.food.groups.rows, g.id = p.groupId →
        g.status = .draft ∨ g.status = .cancelled := by
  intro p hp hunlocked g hg hid
  cases he with
  | aside _ ha => exact h.unlocked p (ha.packages ▸ hp) hunlocked g (ha.groups ▸ hg) hid
  | created _ g₀ ps ha =>
      rw [insertRow_eq_ok ha.groups, List.mem_append, List.mem_singleton] at hg
      rcases hg with hg | rfl
      · rw [ha.packages, List.mem_append] at hp
        rcases hp with hp | hp
        · exact h.unlocked p hp hunlocked g hg hid
        · exact absurd (hid.trans (ha.belongs p hp)) (not_clash_of_insertRow ha.groups g hg)
      · exact .inl ha.draft
  | moved _ ctx _ g₀ status _ ha =>
      rw [ha.packages] at hp
      rw [ha.groups] at hg
      rcases mem_rewrite (fun y hy hyid ↦ group_eq_of_id hy ha.mem (of_decide_eq_true hyid)) hg with
        ⟨hg, -⟩ | rfl
      · split at hp
        · obtain ⟨q, hq, rfl⟩ := List.mem_map.mp hp
          split at hunlocked
          · cases hunlocked
          · next hkept =>
              rw [if_neg hkept] at hid
              exact h.unlocked q hq hunlocked g hg hid
        · exact h.unlocked p hp hunlocked g hg hid
      · split at hp
        · obtain ⟨q, hq, rfl⟩ := List.mem_map.mp hp
          split at hunlocked
          · cases hunlocked
          · next hkept =>
              rw [if_neg hkept] at hid
              exact absurd (decide_eq_true ⟨hid.symm, hunlocked⟩) hkept
        · next hnext =>
            exact .inr (cancelled_of_canTransition ha.allowed
              (h.unlocked p hp hunlocked g₀ ha.mem hid) hnext)
  | edited _ q dto ha =>
      rw [ha.packages] at hp
      obtain ⟨r, hr, rfl⟩ := List.mem_map.mp hp
      have hg' : g ∈ s.db.food.groups.rows := by
        rw [ha.after] at hg
        exact hg
      split at hunlocked
      · next hedit =>
          rw [if_pos hedit] at hid
          exact h.unlocked r hr hunlocked g hg' hid
      · next hkept =>
          rw [if_neg hkept] at hid
          exact h.unlocked r hr hunlocked g hg' hid
  | subscribed _ x _ _ after =>
      rw [after] at hp hg
      exact h.unlocked p hp hunlocked g hg hid
  | paid _ _ _ e ha => exact h.unlocked p (ha.packages ▸ hp) hunlocked g (ha.groups ▸ hg) hid
  | withdrawn _ _ _ _ _ e ha =>
      exact h.unlocked p (ha.packages ▸ hp) hunlocked g (ha.groups ▸ hg) hid

/-- A subscription that a step leaves as it is stays in order. -/
theorem InOrder.keep {x : FoodSubscription} (h : InOrder s x) (he : Effect s call s')
    (hx : x ∈ s'.db.food.subscriptions.rows) : InOrder s' x := by
  obtain ⟨g, hg, hgid⟩ := h.group
  obtain ⟨g', hg', hid', -⟩ := he.groups hg
  obtain ⟨p, hp, hpid, hlocked, hsettlement⟩ := h.package
  refine ⟨⟨g', hg', hid'.trans hgid⟩, h.quantity, p, he.locked hp hlocked, hpid, hlocked, ?_⟩
  cases hsettlement with
  | unpaid status zero => exact .unpaid status zero
  | active status full pos paidAt stamped noted unused =>
      refine .active status full pos paidAt stamped (he.payments_subset noted) fun t ht hkey ↦ ?_
      rcases he.refundKey ht hkey with ⟨t', ht', hkey'⟩ | ⟨_, _, e, hw, -, hkey'⟩
      · exact unused t' ht' hkey'
      · -- The refund that was posted is that of a subscription that is now withdrawn.
        have hid := (refundKey_inj (hkey.symm.trans hkey')).1
        have hsame := subscription_eq_of_id hx hw.mem hid
        rw [hsame] at status
        cases status

/-- A package of a programme that members can enrol in has its price locked. -/
theorem Sound.locked_of_mayEnrol (h : Sound s) {x : FoodSubscription} (hmay : MayEnrol s.db x) :
    ∃ p ∈ s.db.food.packages.rows, p.id = x.packageId ∧ p.priceLockedAt ≠ none := by
  obtain ⟨g, hg, hgid, hopen, -⟩ := hmay.room
  obtain ⟨p, hp, hpid, hpg⟩ := hmay.package
  refine ⟨p, hp, hpid, fun hunlocked ↦ ?_⟩
  rcases h.unlocked p hp hunlocked g hg (hgid.trans hpg.symm) with hst | hst
  · rw [hopen] at hst
    cases hst
  · rw [hopen] at hst
    cases hst

/-- An enrolment that can be taken up again has nothing paid on it. -/
theorem InOrder.zero_of_lapsed {x : FoodSubscription} (h : InOrder s x)
    (hlapsed : isLive x = false) : x.amountPaidMinor = 0 := by
  obtain ⟨p, -, -, -, hsettlement⟩ := h.package
  cases hsettlement with
  | active status => simp [isLive, status] at hlapsed
  | unpaid _ zero => exact zero

theorem Sound.unpaid_of_subscribed (h : Sound s) {x : FoodSubscription}
    (hx : Subscribed s.db s'.db x) : x.amountPaidMinor = 0 := by
  cases hx with
  | joined unpaid => exact unpaid
  | rejoined y mem lapsed renewed =>
      rw [renewed]
      exact (h.subscriptions y mem).zero_of_lapsed lapsed

/-- The subscriptions after a member enrolled. -/
theorem Subscribed.mem_cases {x y : FoodSubscription} (h : Subscribed db db' x)
    (hy : y ∈ db'.food.subscriptions.rows) : y ∈ db.food.subscriptions.rows ∨ y = x := by
  cases h with
  | joined _ insert =>
      rw [insertRow_eq_ok insert, List.mem_append, List.mem_singleton] at hy
      exact hy
  | rejoined z mem _ renewed rows =>
      rw [rows] at hy
      exact (mem_rewriteSubscription mem hy).imp And.left fun hyz ↦ hyz.trans renewed.symm

theorem Sound.subscriptions_step (h : Sound s) (he : Effect s call s') :
    ∀ x ∈ s'.db.food.subscriptions.rows, InOrder s' x := by
  intro x hx
  have hkeep : x ∈ s.db.food.subscriptions.rows → InOrder s' x :=
    fun hmem ↦ (h.subscriptions x hmem).keep he hx
  cases he with
  | aside _ ha => exact hkeep (ha.subscriptions ▸ hx)
  | created _ g ps ha => exact hkeep (by rw [ha.after] at hx; exact hx)
  | moved _ ctx _ g status _ ha => exact hkeep (by rw [ha.after] at hx; exact hx)
  | edited _ p dto ha => exact hkeep (by rw [ha.after] at hx; exact hx)
  | subscribed payments y may hy after =>
      rcases hy.mem_cases hx with hx | rfl
      · exact hkeep hx
      · obtain ⟨g, hg, hgid, -⟩ := may.room
        obtain ⟨p, hp, hpid, hlocked⟩ := h.locked_of_mayEnrol may
        refine ⟨⟨g, by rw [after]; exact hg, hgid⟩, may.quantity, p, by rw [after]; exact hp, hpid,
          hlocked, ?_⟩
        exact .unpaid (.inl may.pending) (h.unpaid_of_subscribed hy)
  | paid now fresh payments e ha =>
      rw [ha.subscriptions] at hx
      rcases mem_rewriteSubscription ha.stored.subscription hx with ⟨hx, -⟩ | rfl
      · exact hkeep hx
      · have horder := h.subscriptions _ ha.stored.subscription
        obtain ⟨p, hp, hpid, hlocked, -⟩ := horder.package
        obtain rfl : e.package = p := package_eq_of_id ha.stored.package hp
          (ha.stored.package_id.trans hpid.symm)
        have hpos : 0 < e.total := lt_of_le_of_lt horder.nonneg ha.owing
        refine ⟨⟨e.group, by rw [ha.groups]; exact ha.stored.group, ha.stored.group_id⟩,
          horder.quantity, e.package, by rw [ha.packages]; exact hp, hpid, hlocked, ?_⟩
        refine .active rfl rfl hpos now rfl (payments ▸ List.mem_append_right _
          (List.mem_singleton_self _)) fun t ht hkey ↦ ?_
        obtain ⟨u, i, k, hrows, hk⟩ := ha.posted
        rw [hrows, List.mem_append, List.mem_singleton] at ht
        rcases ht with ht | rfl
        · exact fresh (h.refunds t ht _ _ hkey)
        · exact refundKey_ne_intentKey _ _ _ _ (hkey.symm.trans hk)
  | withdrawn payments _ _ _ _ e ha =>
      rw [ha.subscriptions] at hx
      rcases mem_rewriteSubscription ha.stored.subscription hx with ⟨hx, -⟩ | rfl
      · exact hkeep hx
      · have horder := h.subscriptions _ ha.stored.subscription
        obtain ⟨p, hp, hpid, hlocked, -⟩ := horder.package
        exact ⟨⟨e.group, by rw [ha.groups]; exact ha.stored.group, ha.stored.group_id⟩,
          horder.quantity, p, by rw [ha.packages]; exact hp, hpid, hlocked,
          .unpaid (.inr rfl) rfl⟩

/-! ### Sums over the subscriptions -/

/-- Rewriting one subscription changes a sum by what it changes there. -/
theorem sumWhere_subscription {x : FoodSubscription} (hx : x ∈ db.food.subscriptions.rows)
    (m : FoodSubscription → FoodSubscription) (p : FoodSubscription → Bool)
    (f : FoodSubscription → Int) :
    sumWhere (db.food.subscriptions.rows.map fun y ↦
      if decide (y.id = x.id) = true then m y else y) p f =
      sumWhere db.food.subscriptions.rows p f +
        ((if p (m x) then f (m x) else 0) - if p x then f x else 0) := by
  refine sumWhere_rewrite db.food.subscriptions.nodup hx fun y hy ↦ ?_
  rw [decide_eq_true_eq]
  constructor
  · exact subscription_eq_of_id hy hx
  · rintro rfl
    rfl

/-- An enrolment takes its portions and pays nothing yet. -/
theorem Subscribed.sums {x : FoodSubscription} (h : Subscribed s.db s'.db x) (hs : Sound s)
    (hpending : x.status = .pending) (g : Uuid) :
    enrolledPortions s'.db g =
        enrolledPortions s.db g + (if g = x.groupId then x.quantity else 0) ∧
      paidTotal s'.db g = paidTotal s.db g := by
  have hlive : isLive x = true := by simp [isLive, hpending]
  have hzero := hs.unpaid_of_subscribed h
  cases h with
  | joined _ insert =>
      rw [enrolledPortions, paidTotal, insertRow_eq_ok insert, sumWhere_concat, sumWhere_concat,
        hlive, hzero]
      simp [enrolledPortions, paidTotal, eq_comm]
  | rejoined y mem lapsed renewed rows =>
      have hgroup : x.groupId = y.groupId := by rw [renewed]; rfl
      have hmarked : renewSubscription x.quantity x.fulfilmentMethod y = x := renewed.symm
      have hzero' := (hs.subscriptions y mem).zero_of_lapsed lapsed
      rw [enrolledPortions, paidTotal, rows, sumWhere_subscription mem, sumWhere_subscription mem,
        hmarked, hlive, lapsed, hzero, hzero']
      simp [enrolledPortions, paidTotal, eq_comm]

/-- A payment brings what was outstanding, and takes no portion. -/
theorem Paid.sums {now : Timestamp} {e : Enrolment} (h : Paid now db db' e) (g : Uuid) :
    enrolledPortions db' g = enrolledPortions db g ∧
      paidTotal db' g = paidTotal db g +
        if g = e.subscription.groupId then e.total - e.subscription.amountPaidMinor else 0 := by
  have hmem := h.stored.subscription
  have hlive : isLive e.subscription = true := by simp [isLive, h.pending]
  have hlive' : isLive (markPaid e.total now e.subscription) = true := rfl
  rw [enrolledPortions, paidTotal, h.subscriptions, sumWhere_subscription hmem,
    sumWhere_subscription hmem, hlive, hlive']
  by_cases hg : g = e.subscription.groupId
  · simp [enrolledPortions, paidTotal, markPaid, hg]
  · simp [enrolledPortions, paidTotal, markPaid, hg, Ne.symm hg]

/-- A withdrawal takes back what was paid, and gives the portions back. -/
theorem Withdrawn.sums {userId programmeId : Uuid} {e : Enrolment}
    (h : Withdrawn db db' userId programmeId e) (g : Uuid) :
    enrolledPortions db' g = enrolledPortions db g -
        (if g = e.subscription.groupId then e.subscription.quantity else 0) ∧
      paidTotal db' g = paidTotal db g -
        if g = e.subscription.groupId then e.subscription.amountPaidMinor else 0 := by
  have hmem := h.stored.subscription
  have hlive' : isLive (markCancelled e.subscription) = false := rfl
  rw [enrolledPortions, paidTotal, h.subscriptions, sumWhere_subscription hmem,
    sumWhere_subscription hmem, h.live, hlive']
  by_cases hg : g = e.subscription.groupId
  · simp [enrolledPortions, paidTotal, markCancelled, hg, sub_eq_add_neg]
  · simp [enrolledPortions, paidTotal, markCancelled, hg, Ne.symm hg]

/-- Sums over subscriptions that a step leaves alone. -/
theorem sums_congr (h : db'.food.subscriptions = db.food.subscriptions) (g : Uuid) :
    enrolledPortions db' g = enrolledPortions db g ∧ paidTotal db' g = paidTotal db g := by
  rw [enrolledPortions, paidTotal, h]
  exact ⟨rfl, rfl⟩

theorem Sound.capacity_step (h : Sound s) (he : Effect s call s') :
    ∀ g ∈ s'.db.food.groups.rows, enrolledPortions s'.db g.id ≤ g.enrolmentCapacity := by
  intro g hg
  cases he with
  | aside _ ha =>
      rw [(sums_congr ha.subscriptions g.id).1]
      exact h.capacity g (ha.groups ▸ hg)
  | created _ g₀ ps ha =>
      have hsame : s'.db.food.subscriptions = s.db.food.subscriptions := by rw [ha.after]
      rw [(sums_congr hsame g.id).1]
      rw [insertRow_eq_ok ha.groups, List.mem_append, List.mem_singleton] at hg
      rcases hg with hg | rfl
      · exact h.capacity g hg
      · -- Nobody is enrolled in a programme that was not there.
        rw [enrolledPortions, sumWhere_eq_zero]
        · exact le_of_lt ha.capacity
        · intro x hx hmine
          rw [Bool.and_eq_true, decide_eq_true_eq] at hmine
          obtain ⟨g', hg', hid⟩ := (h.subscriptions x hx).group
          exact not_clash_of_insertRow ha.groups g' hg' (hid.trans hmine.1)
  | moved _ ctx _ g₀ status _ ha =>
      have hsame : s'.db.food.subscriptions = s.db.food.subscriptions := by rw [ha.after]
      rw [(sums_congr hsame g.id).1]
      rw [ha.groups] at hg
      obtain ⟨g', hg', rfl⟩ := List.mem_map.mp hg
      split
      · exact h.capacity g' hg'
      · exact h.capacity g' hg'
  | edited _ p dto ha =>
      have hsame : s'.db.food.subscriptions = s.db.food.subscriptions := by rw [ha.after]
      rw [(sums_congr hsame g.id).1]
      rw [ha.after] at hg
      exact h.capacity g hg
  | subscribed _ x may hx after =>
      rw [after] at hg
      rw [(hx.sums h may.pending g.id).1]
      split
      · next hid =>
          obtain ⟨g', hg', hgid, -, hroom⟩ := may.room
          obtain rfl : g = g' := group_eq_of_id hg hg' (hid.trans hgid.symm)
          rw [hid]
          exact hroom
      · rw [add_zero]
        exact h.capacity g hg
  | paid _ _ _ e ha =>
      rw [(ha.sums g.id).1]
      exact h.capacity g (ha.groups ▸ hg)
  | withdrawn _ _ _ _ _ e ha =>
      have hle := h.capacity g (ha.groups ▸ hg)
      have hquantity := (h.subscriptions _ ha.stored.subscription).quantity
      rw [(ha.sums g.id).1]
      split
      · omega
      · omega

theorem Sound.balance_step (h : Sound s) (he : Effect s call s') (g : Uuid) :
    escrowBalance s'.db g = paidTotal s'.db g := by
  have hsame : s'.db.ledger = s.db.ledger → paidTotal s'.db g = paidTotal s.db g →
      escrowBalance s'.db g = paidTotal s'.db g := by
    intro hledger hpaid
    rw [hpaid, escrowBalance, hledger]
    exact h.balance g
  cases he with
  | aside _ ha =>
      rw [(sums_congr ha.subscriptions g).2, escrowBalance, ha.escrow]
      exact h.balance g
  | created _ g₀ ps ha => exact hsame (by rw [ha.after]) (sums_congr (by rw [ha.after]) g).2
  | moved _ ctx _ g₀ status _ ha => exact hsame (by rw [ha.after]) (sums_congr (by rw [ha.after]) g).2
  | edited _ p dto ha => exact hsame (by rw [ha.after]) (sums_congr (by rw [ha.after]) g).2
  | subscribed _ x may hx after => exact hsame (by rw [after]) (hx.sums h may.pending g).2
  | paid _ _ _ e ha =>
      rw [(ha.sums g).2, escrowBalance, ha.escrow]
      exact congrArg (· + _) (h.balance g)
  | withdrawn _ _ _ _ _ e ha =>
      have hrefundable := (h.subscriptions _ ha.stored.subscription).refundable
      rw [(ha.sums g).2, escrowBalance, ha.escrow hrefundable]
      exact congrArg (· - _) (h.balance g)

theorem Sound.of_effect (h : Sound s) (he : Effect s call s') : Sound s' :=
  ⟨he.intentsPosted h.intents, h.refunds_step he, h.unlocked_step he, h.subscriptions_step he,
    h.capacity_step he, h.balance_step he⟩

theorem Sound.step (h : Sound s) (hk : Admitted s call) : Sound (step s call) :=
  h.of_effect (step_effect h.intents hk)

/-! ## Every run -/

/-- There are no programmes yet, no escrow is open, and nothing was posted for an intent or a
refund. -/
def Starts (s : Desk) : Prop :=
  s.db.food.groups.rows = [] ∧ s.db.food.packages.rows = [] ∧ s.db.food.subscriptions.rows = [] ∧
    (∀ a ∈ s.db.ledger.accounts.rows, a.purpose ≠ some .foodProgrammeEscrow) ∧
    ∀ t ∈ s.db.ledger.transactions.rows,
      ¬ "food-refund:".toList.isPrefixOf t.idempotencyKey.toList = true ∧
        ¬ "payment-intent:".toList.isPrefixOf t.idempotencyKey.toList = true

instance : DecidablePred Starts := fun s ↦ by
  unfold Starts
  infer_instance

theorem Starts.sound (h : Starts s) : Sound s := by
  obtain ⟨hgroups, hpackages, hsubscriptions, hescrows, hkeys⟩ := h
  refine ⟨?_, ?_, ?_, ?_, ?_, ?_⟩
  · exact intentsPosted_of_unposted fun t ht ↦ (hkeys t ht).2
  · intro t ht id paidAt hk
    refine absurd ?_ (hkeys t ht).1
    rw [hk, refundKey]
    exact isPrefixOf_append _ _
  · rw [hpackages]
    exact List.forall_mem_nil _
  · rw [hsubscriptions]
    exact List.forall_mem_nil _
  · rw [hgroups]
    exact List.forall_mem_nil _
  · intro g
    have hnone : s.db.ledger.byCode (escrowAccountCode g) = none := by
      cases hfind : s.db.ledger.byCode (escrowAccountCode g) with
      | none => rfl
      | some a =>
          obtain ⟨ha, hcode⟩ := byCode_eq_some.mp hfind
          exact absurd (purpose_of_escrowAccountCode hcode) (hescrows a ha)
    rw [escrowBalance, codeBalance, hnone, paidTotal, hsubscriptions]
    rfl

/-- The laws hold in every state of every run. -/
theorem sound_of_reaches {s₀ : Desk} (h₀ : Starts s₀) (h : Reaches step Admitted s₀ s) : Sound s :=
  h.invariant h₀.sound fun _ _ hs hk ↦ hs.step hk

/-- A package whose price is locked stays as it is, whatever happens. -/
theorem locked_of_reaches (hs : Sound s) (h : Reaches step Admitted s s') {p : FoodPackage}
    (hp : p ∈ s.db.food.packages.rows) (hlocked : p.priceLockedAt ≠ none) :
    p ∈ s'.db.food.packages.rows := by
  refine (h.invariant (I := fun t ↦ Sound t ∧ p ∈ t.db.food.packages.rows) ⟨hs, hp⟩ ?_).2
  rintro t call ⟨ht, hmem⟩ hk
  exact ⟨ht.step hk, (step_effect ht.intents hk).locked hmem hlocked⟩

/-- **What is in escrow is what was paid.**  In every state of every run in which no two payments are
made at the same time: the escrow of a programme holds what its subscriptions say was paid, and the
portions taken fit it; an active subscription is paid at its package's price for each portion, one
that is pending or withdrawn not at all; and from then on no package that is subscribed to changes its
price. -/
theorem escrow_conserved {s₀ s : Desk} (h₀ : Starts s₀) (h : Reaches step Admitted s₀ s) :
    (∀ g ∈ s.db.food.groups.rows, escrowBalance s.db g.id = paidTotal s.db g.id ∧
      enrolledPortions s.db g.id ≤ g.enrolmentCapacity) ∧
    (∀ x ∈ s.db.food.subscriptions.rows, ∃ p ∈ s.db.food.packages.rows, p.id = x.packageId ∧
      (x.status = .active →
        x.amountPaidMinor = subscriptionTotalMinor p.priceMinor x.quantity) ∧
      (x.status = .pending ∨ x.status = .cancelled → x.amountPaidMinor = 0)) ∧
    ∀ s', Reaches step Admitted s s' → ∀ x ∈ s.db.food.subscriptions.rows,
      ∀ p ∈ s.db.food.packages.rows, p.id = x.packageId →
        ∃ p' ∈ s'.db.food.packages.rows, p'.id = p.id ∧ p'.priceMinor = p.priceMinor := by
  have hs := sound_of_reaches h₀ h
  refine ⟨fun g hg ↦ ⟨hs.balance g.id, hs.capacity g hg⟩, ?_, ?_⟩
  · intro x hx
    obtain ⟨p, hp, hid, -, hsettlement⟩ := (hs.subscriptions x hx).package
    refine ⟨p, hp, hid, ?_⟩
    cases hsettlement with
    | active status full => exact ⟨fun _ ↦ full, by simp [status]⟩
    | unpaid status zero =>
        refine ⟨fun hactive ↦ ?_, fun _ ↦ zero⟩
        rw [hactive] at status
        rcases status with status | status
        · cases status
        · cases status
  · intro s' hrun x hx p hp hid
    obtain ⟨q, hq, hqid, hlocked, -⟩ := (hs.subscriptions x hx).package
    obtain rfl : p = q := package_eq_of_id hp hq (hid.trans hqid.symm)
    exact ⟨p, locked_of_reaches hs hrun hp hlocked, rfl, rfl⟩

/-! ## A small programme -/

section Sample

/-- The calls other than those of the rest of the platform, as they are admitted. -/
def admits (s : Desk) : Call → Bool
  | .pay ctx userId intentId key =>
      !settles ctx s.db userId intentId key || !s.payments.contains ctx.now
  | .elsewhere _ => false
  | _ => true

theorem admitted_of_admits (h : admits s call = true) : Admitted s call := by
  cases call with
  | pay ctx userId intentId key =>
      intro hsettles
      simpa [admits, hsettles] using h
  | elsewhere db => cases h
  | _ => trivial

/-- The clock of a call, and identifiers that differ from the start. -/
def sampleDraw (now : Timestamp) (n : Nat) : Ctx := ⟨now, fun k ↦ .ofNat ((256 * n + k) * 2 ^ 96)⟩

/-- An account of the sample. -/
def sampleAccount (id : Nat) (code : String) (purpose : FinancialAccountPurpose)
    (wallet : Option Nat) (hcode : codePurpose code = none) : FinancialAccount :=
  plainAccount id code .liability purpose wallet hcode

/-- The wallets of the sample. -/
def sampleWallets : List Wallet :=
  [⟨.ofNat 21, .ofNat 1, "NGN", .active⟩, ⟨.ofNat 22, .ofNat 2, "NGN", .active⟩]

/-- Two members with a wallet each, into which they have put a thousand. -/
def sampleMembers : Desk where
  db := { Db.empty with
    ledger :=
      { accounts := ⟨[sampleAccount 10 "PROVIDER:NGN" .providerPayable none codePurpose_provider,
          sampleAccount 11 "WALLET:1" .walletAvailable (some 21) codePurpose_wallet1,
          sampleAccount 12 "WALLET:2" .walletAvailable (some 22) codePurpose_wallet2,
          sampleAccount 13 "FEES:NGN" .platformFeeRevenue none codePurpose_fees], by decide⟩
        transactions := ⟨[⟨.ofNat 14, "DEP-1", "payment-settlement:1", "Wallet deposit", "NGN",
          .posted, none, none, none, [⟨.ofNat 10, .debit, 2000, "NGN", 1⟩,
            ⟨.ofNat 11, .credit, 1000, "NGN", 2⟩, ⟨.ofNat 12, .credit, 1000, "NGN", 3⟩]⟩], by simp⟩
        foreignKey := by decide }
    wallets := ⟨sampleWallets, by decide⟩ }
  payments := []

/-- The programme of the sample, and its two packages. -/
def sampleProgramme : Uuid := (sampleDraw 1 1).uuid 0
def sampleRice : Uuid := (sampleDraw 1 1).uuid 1
def sampleBeans : Uuid := (sampleDraw 1 1).uuid 2

/-- A coordinator opens a programme with two packages. -/
def sampleOpening : List Call :=
  [.createProgramme (sampleDraw 1 1) true (.ofNat 9)
      ⟨"Harvest", 100, 10, .pickup, 0, 100, none, [⟨"Rice", 100⟩, ⟨"Beans", 50⟩]⟩,
    .transitionProgramme (sampleDraw 2 2) (.ofNat 9) sampleProgramme .open]

/-- A member enrols for two portions of a package and pays; `n` numbers the calls. -/
def sampleEnrols (now : Timestamp) (n member : Nat) (package : Uuid) : List Call :=
  [.subscribe (sampleDraw now n) (.ofNat member) sampleProgramme ⟨package, 2, none⟩,
    .createIntent (sampleDraw now (n + 1)) (.ofNat member) ⟨some ((sampleDraw now n).uuid 0), none⟩
      ("intent-" ++ toString n),
    .pay (sampleDraw now (n + 2)) (.ofNat member) ((sampleDraw now (n + 1)).uuid 0)
      ("pay-" ++ toString n)]

/-- The state after some calls. -/
def sampleAfter (calls : List Call) : Desk := calls.foldl step sampleMembers

theorem reaches_sampleAfter {calls : List Call}
    (h : AllAdmitted step (fun s call ↦ admits s call = true) sampleMembers calls) :
    Reaches step Admitted sampleMembers (sampleAfter calls) :=
  (reaches_of_allAdmitted h).mono fun _ _ ↦ admitted_of_admits

theorem starts_sampleMembers : Starts sampleMembers := by decide +kernel

/-- Both members enrol and pay, and the second withdraws; the coordinator fails to change a price. -/
def sampleSeason : List Call :=
  sampleOpening ++ sampleEnrols 10 10 1 sampleRice ++
    [.updatePackage (.ofNat 9) sampleProgramme sampleRice ⟨none, some 1⟩] ++
    sampleEnrols 20 20 2 sampleBeans ++
    [.cancelSubscription (sampleDraw 30 30) (.ofNat 2) sampleProgramme]

theorem escrow_conserved_sample :
    escrowBalance (sampleAfter sampleSeason).db sampleProgramme = 200 ∧
      (sampleAfter sampleSeason).db.food.groups.rows.map (·.id) = [sampleProgramme] ∧
      ∀ g ∈ (sampleAfter sampleSeason).db.food.groups.rows,
        escrowBalance (sampleAfter sampleSeason).db g.id =
            paidTotal (sampleAfter sampleSeason).db g.id ∧
          enrolledPortions (sampleAfter sampleSeason).db g.id ≤ g.enrolmentCapacity :=
  ⟨by decide +kernel, by decide +kernel,
    (escrow_conserved starts_sampleMembers (reaches_sampleAfter (by decide +kernel))).1⟩

end Sample

end AjoCloud.Food
