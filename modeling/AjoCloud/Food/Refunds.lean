import AjoCloud.Food.Conservation

/-!
# When a withdrawal is refunded

A member who withdraws from an open programme is owed what they paid.  The refund is posted under a
key of its own for each payment, but under a reference that is cut from the identifier of the
subscription; and the subscription that is withdrawn is the first one the member has in the programme.
-/

namespace AjoCloud.Food

open Lib ServiceError Ledger Payments

variable {s s' : Desk} {call : Call} {ctx : Ctx} {db db' : Db} {x : FoodSubscription}

/-! ## What a refund rests on -/

/-- The instants a `Date` can hold. -/
def IsDate (t : Timestamp) : Prop := -8640000000000000 ≤ t ∧ t ≤ 8640000000000000

/-- The call is admitted, and the clock of a payment shows a date. -/
def Dated (s : Desk) (call : Call) : Prop :=
  Admitted s call ∧ match call with
    | .pay ctx _ _ _ => IsDate ctx.now
    | _ => True

/-- The columns of the refunds hold their values. -/
structure Postable (s : Desk) : Prop where
  sound : Sound s
  dates : ∀ t ∈ s.payments, IsDate t
  currency : ∀ p ∈ s.db.food.packages.rows, p.currency = "NGN"
  amounts : ∀ x ∈ s.db.food.subscriptions.rows, fitsBigInt x.amountPaidMinor = true

theorem dates_step (h : ∀ t ∈ s.payments, IsDate t) (hk : Dated s call) :
    ∀ t ∈ (step s call).payments, IsDate t := by
  cases call with
  | pay ctx userId intentId key =>
      intro t ht
      simp only [step] at ht
      split at ht
      · rw [List.mem_append, List.mem_singleton] at ht
        rcases ht with ht | rfl
        · exact h t ht
        · exact hk.2
      · exact h t ht
  | _ => exact h

theorem Effect.currency (he : Effect s call s')
    (h : ∀ p ∈ s.db.food.packages.rows, p.currency = "NGN") :
    ∀ p ∈ s'.db.food.packages.rows, p.currency = "NGN" := by
  intro p hp
  cases he with
  | aside _ ha => exact h p (ha.packages ▸ hp)
  | created _ g ps ha =>
      rw [ha.packages, List.mem_append] at hp
      exact hp.elim (h p) (ha.currency p)
  | moved _ ctx _ g status _ ha =>
      rw [ha.packages] at hp
      split at hp
      · obtain ⟨q, hq, rfl⟩ := List.mem_map.mp hp
        split
        · exact h q hq
        · exact h q hq
      · exact h p hp
  | edited _ q dto ha =>
      rw [ha.packages] at hp
      obtain ⟨r, hr, rfl⟩ := List.mem_map.mp hp
      split
      · exact h r hr
      · exact h r hr
  | subscribed _ y _ _ after =>
      rw [after] at hp
      exact h p hp
  | paid _ _ _ e ha => exact h p (ha.packages ▸ hp)
  | withdrawn _ _ _ _ _ e ha => exact h p (ha.packages ▸ hp)

theorem Postable.amounts_step (h : Postable s) (he : Effect s call s') :
    ∀ x ∈ s'.db.food.subscriptions.rows, fitsBigInt x.amountPaidMinor = true := by
  intro x hx
  cases he with
  | aside _ ha => exact h.amounts x (ha.subscriptions ▸ hx)
  | created _ g ps ha => exact h.amounts x (by rw [ha.after] at hx; exact hx)
  | moved _ ctx _ g status _ ha => exact h.amounts x (by rw [ha.after] at hx; exact hx)
  | edited _ p dto ha => exact h.amounts x (by rw [ha.after] at hx; exact hx)
  | subscribed _ y may hy after =>
      rcases hy.mem_cases hx with hx | rfl
      · exact h.amounts x hx
      · rw [h.sound.unpaid_of_subscribed hy]
        rfl
  | paid _ _ _ e ha =>
      rw [ha.subscriptions] at hx
      rcases mem_rewriteSubscription ha.stored.subscription hx with ⟨hx, -⟩ | rfl
      · exact h.amounts x hx
      · exact ha.fits
  | withdrawn _ _ _ _ _ e ha =>
      rw [ha.subscriptions] at hx
      rcases mem_rewriteSubscription ha.stored.subscription hx with ⟨hx, -⟩ | rfl
      · exact h.amounts x hx
      · rfl

theorem Postable.step (h : Postable s) (hk : Dated s call) : Postable (step s call) := by
  have he := step_effect h.sound.intents hk.1
  exact ⟨h.sound.step hk.1, dates_step h.dates hk, he.currency h.currency, h.amounts_step he⟩

theorem postable_of_reaches {s₀ : Desk} (h₀ : Starts s₀) (hnone : s₀.payments = [])
    (h : Reaches step Dated s₀ s) : Postable s := by
  refine h.invariant ⟨h₀.sound, ?_, ?_, ?_⟩ fun _ _ hs hk ↦ hs.step hk
  · rw [hnone]
    exact List.forall_mem_nil _
  · rw [h₀.2.1]
    exact List.forall_mem_nil _
  · rw [h₀.2.2.1]
    exact List.forall_mem_nil _

/-- A date takes at most seventeen characters. -/
theorem length_toString_date {t : Timestamp} (h : IsDate t) : (toString t).length ≤ 17 := by
  obtain ⟨hlow, hhigh⟩ := h
  cases t with
  | ofNat n =>
      show n.repr.length ≤ 17
      rw [Nat.length_repr_le_iff (by decide)]
      have hn : (n : Int) ≤ 8640000000000000 := hhigh
      omega
  | negSucc n =>
      show ("-" ++ (n + 1).repr).length ≤ 17
      have hlow' : (-8640000000000000 : Int) ≤ Int.negSucc n := hlow
      have hn : n + 1 < 10 ^ 16 := by omega
      have hlength := (Nat.length_repr_le_iff (by decide)).mpr hn
      rw [String.length_append]
      have hdash : "-".length = 1 := by decide
      omega

/-- The key of a refund fits its column. -/
theorem fits_refundKey {id : Uuid} {t : Timestamp} (h : IsDate t) :
    fitsVarChar 128 (refundKey id (some t)) := by
  have hlength := length_toString_date h
  have hopening : "food-refund:".length = 12 := by decide +kernel
  have hcolon : ":".length = 1 := by decide
  rw [fitsVarChar, refundKey, String.length_append, String.length_append, String.length_append,
    Uuid.length_toString, hopening, hcolon, Option.getD_some]
  omega

/-! ## When the refund is posted -/

/-- The subscription that the member would withdraw is the one at hand, no refund has been posted
under the reference it would get, and the two accounts of the refund can be used. -/
structure CanRefund (db : Db) (x : FoodSubscription) : Prop where
  first : (db.food.subscriptions.find? fun y ↦ y.groupId = x.groupId ∧ y.userId = x.userId) = some x
  reference : ∀ t ∈ db.ledger.transactions.rows,
    t.reference ≠ "FOOD-REFUND-" ++ x.id.shortCode
  wallet : ∃ w, refundAccount db x.userId "NGN" = some w
  escrow : ∀ a ∈ db.ledger.accounts.rows, a.code = escrowAccountCode x.groupId → a.isActive = true

/-- The subscription is withdrawn, and the member's wallet has what was paid on it. -/
def RefundsInFull (ctx : Ctx) (db : Db) (x : FoodSubscription) : Prop :=
  ∃ r db' w, cancelSubscription ctx db x.userId x.groupId = .ok (r, db') ∧ r.id = x.id ∧
    refundAccount db x.userId "NGN" = some w ∧
    db'.balance w.id = db.balance w.id + x.amountPaidMinor

/-- The escrow of a programme that was paid into is there. -/
theorem Sound.escrow_opened (h : Sound s) (hx : x ∈ s.db.food.subscriptions.rows)
    (hpaid : 0 < x.amountPaidMinor) :
    ∃ a ∈ s.db.ledger.accounts.rows, a.code = escrowAccountCode x.groupId := by
  cases hfind : s.db.ledger.byCode (escrowAccountCode x.groupId) with
  | some a =>
      obtain ⟨ha, hcode⟩ := byCode_eq_some.mp hfind
      exact ⟨a, ha, hcode⟩
  | none =>
      -- With no escrow nothing would have been paid by anyone.
      have hzero : paidTotal s.db x.groupId = 0 := by
        rw [← h.balance, escrowBalance, codeBalance, hfind]
      have hnone : (0 : Int) = x.amountPaidMinor :=
        (sumWhere_le_iff (f := fun _ ↦ 0) (g := fun y : FoodSubscription ↦ y.amountPaidMinor)
          (p := fun y ↦ y.groupId = x.groupId)
          fun y hy _ ↦ (h.subscriptions y hy).nonneg).mp (by
            rw [paidTotal] at hzero
            rw [hzero]
            simp [sumWhere]) x hx (decide_eq_true rfl)
      omega

theorem escrowAccountWithin_of_mem {id programmeId escrow : Uuid} {currency : String}
    {a : FinancialAccount} (ha : a ∈ db.ledger.accounts.rows)
    (hcode : a.code = escrowAccountCode programmeId) :
    escrowAccountWithin db id programmeId currency = .ok (escrow, db') ↔
      a.isActive = true ∧ escrow = a.id ∧ db' = db := by
  have hfind : (db.ledger.accounts.find? fun b ↦ b.code = escrowAccountCode programmeId) = some a :=
    byCode_eq_some.mpr ⟨ha, hcode⟩
  unfold escrowAccountWithin
  rw [hfind]
  simp only [bind_eq_ok, require_eq_ok, pure_eq_ok, exists_const, Prod.mk.injEq]
  constructor
  · rintro ⟨hactive, rfl, rfl⟩
    exact ⟨hactive, rfl, rfl⟩
  · rintro ⟨hactive, rfl, rfl⟩
    exact ⟨hactive, rfl, rfl⟩

theorem transfers_refundPosting (userId programmeId : Uuid) (x : FoodSubscription)
    (currency : String) (escrow wallet : Uuid) :
    (refundPosting userId programmeId x currency escrow wallet).Transfers escrow wallet
      x.amountPaidMinor := rfl

theorem fitsColumns_refundPosting (userId programmeId : Uuid) (x : FoodSubscription)
    (currency : String) (escrow wallet : Uuid) :
    (refundPosting userId programmeId x currency escrow wallet).FitsColumns := by
  refine ⟨fitsVarChar_append_shortCode (by decide +kernel) _, ?_, fun c hc ↦ ?_⟩
  · have hfits : fitsVarChar 500 "Food Ajo enrolment refund" := by decide +kernel
    exact hfits
  · obtain rfl : programmeId.toString = c := Option.some.inj hc
    rw [fitsVarChar, Uuid.length_toString]
    decide

/-- The posting of a refund is accepted when its reference is new. -/
theorem Postable.exists_post_iff (h : Postable s) (hx : x ∈ s.db.food.subscriptions.rows)
    (hpaid : 0 < x.amountPaidMinor) {id : Uuid}
    (hfresh : ∀ t ∈ s.db.ledger.transactions.rows, t.id ≠ id) {a w : FinancialAccount}
    (ha : a ∈ s.db.ledger.accounts.rows) (hw : w ∈ s.db.ledger.accounts.rows) (userId : Uuid) :
    (∃ r, s.db.ledger.postWithin id
        (refundPosting userId x.groupId x "NGN" a.id w.id) = .ok r) ↔
      ∀ t ∈ s.db.ledger.transactions.rows, t.reference ≠ "FOOD-REFUND-" ++ x.id.shortCode := by
  obtain ⟨paidAt, hnoted, hstamped, hunused⟩ := (h.sound.subscriptions x hx).stamped hpaid
  have hkey : (refundPosting userId x.groupId x "NGN" a.id w.id).idempotencyKey =
      refundKey x.id (some paidAt) := congrArg (refundKey x.id) hstamped
  rw [exists_postWithin_transfer_iff (transfers_refundPosting ..) (fitsColumns_refundPosting ..)
    ⟨a, ha, rfl⟩ ⟨w, hw, rfl⟩ hfresh (by rw [hkey]; exact hunused)]
  constructor
  · rintro ⟨-, -, -, -, hreference⟩
    exact hreference
  · intro hreference
    have hcurrency : isCurrencyCode "NGN" = true := by decide +kernel
    refine ⟨hcurrency, hpaid, h.amounts x hx, ?_, hreference⟩
    rw [hkey]
    exact fits_refundKey (h.dates paidAt hnoted)

/-- What a posted refund does to the member's account. -/
theorem balance_refund {id userId : Uuid} {a w : FinancialAccount} {posting : LedgerReference}
    {ledger ledger' : Ledger} (ha : a ∈ ledger.accounts.rows)
    (hcode : a.code = escrowAccountCode x.groupId) (hw : w ∈ ledger.accounts.rows)
    (hpurpose : w.purpose = some .walletAvailable)
    (hunused : ∀ t ∈ ledger.transactions.rows, t.idempotencyKey ≠ refundKey x.id x.paidAt)
    (h : ledger.postWithin id (refundPosting userId x.groupId x "NGN" a.id w.id) =
      .ok (posting, ledger')) :
    ledger'.accountBalanceWithin w.id = ledger.accountBalanceWithin w.id + x.amountPaidMinor := by
  have hne : a.id ≠ w.id := by
    refine id_ne_of_purpose ha hw ?_
    rw [purpose_of_escrowAccountCode hcode, hpurpose]
    exact nofun
  rw [balance_of_transfer (transfers_refundPosting ..) h hunused, if_neg hne, if_pos rfl, zero_add]

/-- **When a withdrawal is refunded.**  In every state of every run, a member who withdraws a paid
subscription from an open programme has what they paid back in their wallet exactly when the
subscription is the first one they have in the programme, no ledger transaction has the reference of
its refund, their wallet takes the money and the programme's escrow is active. -/
theorem withdrawal_refunded_iff {s₀ s : Desk} (h₀ : Starts s₀) (hnone : s₀.payments = [])
    (h : Reaches step Dated s₀ s) {g : FoodAjoGroup} (hg : g ∈ s.db.food.groups.rows)
    (hopen : g.status = .open) {x : FoodSubscription} (hx : x ∈ s.db.food.subscriptions.rows)
    (hgroup : x.groupId = g.id) (hlive : isLive x = true) (hpaid : 0 < x.amountPaidMinor) {ctx : Ctx}
    (hfresh : ∀ t ∈ s.db.ledger.transactions.rows, t.id ≠ ctx.uuid 0) :
    RefundsInFull ctx s.db x ↔ CanRefund s.db x := by
  have hs := postable_of_reaches h₀ hnone h
  obtain ⟨a, ha, hcode⟩ := hs.sound.escrow_opened hx hpaid
  obtain ⟨paidAt, hnoted, hstamped, hunused⟩ := (hs.sound.subscriptions x hx).stamped hpaid
  obtain ⟨p, hp, hpid, -⟩ := (hs.sound.subscriptions x hx).package
  have hgroupFound : (s.db.food.groups.find? fun y ↦ y.id = x.groupId) = some g :=
    s.db.food.groups.find?_eq_some_of_mem hg (decide_eq_true hgroup.symm) fun y _ hy ↦
      (of_decide_eq_true hy).trans hgroup
  have hpackageFound : (s.db.food.packages.find? fun y ↦ y.id = x.packageId) = some p :=
    s.db.food.packages.find?_eq_some_of_mem hp (decide_eq_true hpid) fun y _ hy ↦
      (of_decide_eq_true hy).trans hpid.symm
  constructor
  · rintro ⟨r, db', w, hcancel, hid, hw, -⟩
    simp only [cancelSubscription, bind_eq_ok, require_eq_ok, orThrow_eq_ok, pure_eq_ok,
      exists_const, Prod.mk.injEq] at hcancel
    obtain ⟨y, hy, g', hg', p', hp', -, refunded, hrefund, _, -, rfl, -⟩ := hcancel
    obtain rfl : y = x := subscription_eq_of_id (Table.mem_of_find? hy) hx hid
    obtain rfl : p = p' := Option.some.inj (hpackageFound.symm.trans hp')
    rcases refundWithin_eq_ok.mp hrefund with ⟨hnothing, -⟩ |
      ⟨-, -, wallet, escrow, opened, posting, hrepaid⟩
    · omega
    · obtain ⟨hactive, rfl, rfl⟩ := (escrowAccountWithin_of_mem ha hcode).mp hrepaid.credit
      have hwallet := hrepaid.account
      have hpost := hrepaid.post
      rw [hs.currency p hp] at hwallet hpost
      refine ⟨hy, ?_, ⟨w, hw⟩, ?_⟩
      · exact (hs.exists_post_iff hx hpaid hfresh ha (mem_of_refundAccount hwallet).1 _).mp
          ⟨_, hpost⟩
      · intro b hb hbcode
        rw [account_eq_of_code hb ha (hbcode.trans hcode.symm)]
        exact hactive
  · rintro ⟨hfirst, hreference, ⟨w, hw⟩, hescrow⟩
    obtain ⟨hmem, hpurpose⟩ := mem_of_refundAccount hw
    obtain ⟨⟨posting, ledger⟩, hpost⟩ :=
      (hs.exists_post_iff hx hpaid hfresh ha hmem x.userId).mpr hreference
    obtain ⟨subscriptions, hrows⟩ : ∃ t, updateRow s.db.food.subscriptions
        (fun y ↦ y.id = x.id) markCancelled = .ok t :=
      exists_updateRow hx (decide_eq_true rfl) fun hclash ↦ hclash
    have hrefund : refundWithin ctx s.db x.userId x.groupId g.status x p.currency =
        .ok { s.db with ledger := ledger } := by
      rw [hs.currency p hp]
      refine refundWithin_eq_ok.mpr (.inr ⟨hpaid, hopen, w, a.id, s.db, posting, hw, ?_, hpost, rfl⟩)
      exact (escrowAccountWithin_of_mem ha hcode).mpr ⟨hescrow a ha hcode, rfl, rfl⟩
    refine ⟨markCancelled x, { s.db with
      ledger := ledger
      food := { s.db.food with subscriptions := subscriptions } }, w, ?_, rfl, hw, ?_⟩
    · simp only [cancelSubscription, bind_eq_ok, require_eq_ok, orThrow_eq_ok, pure_eq_ok,
        exists_const, Prod.mk.injEq]
      exact ⟨x, hfirst, g, hgroupFound, p, hpackageFound, hlive, _, hrefund, subscriptions, hrows,
        rfl, rfl⟩
    · exact balance_refund ha hcode hmem hpurpose (by rw [hstamped]; exact hunused) hpost

/-! ## Two rounds -/

section Sample

instance (t : Timestamp) : Decidable (IsDate t) :=
  inferInstanceAs (Decidable (-8640000000000000 ≤ t ∧ t ≤ 8640000000000000))

/-- The calls of the programmes, as they are admitted with a date. -/
def admitsDated (s : Desk) (call : Call) : Bool :=
  admits s call && match call with
    | .pay ctx _ _ _ => decide (IsDate ctx.now)
    | _ => true

theorem dated_of_admits (h : admitsDated s call = true) : Dated s call := by
  unfold admitsDated at h
  rw [Bool.and_eq_true] at h
  refine ⟨admitted_of_admits h.1, ?_⟩
  cases call with
  | pay ctx userId intentId key => exact of_decide_eq_true h.2
  | _ => trivial

theorem dated_sampleAfter {calls : List Call}
    (h : AllAdmitted step (fun s call ↦ admitsDated s call = true) sampleMembers calls) :
    Reaches step Dated sampleMembers (sampleAfter calls) :=
  (reaches_of_allAdmitted h).mono fun _ _ ↦ dated_of_admits

/-- The first member has enrolled and paid. -/
def sampleFirstRound : List Call := sampleOpening ++ sampleEnrols 10 10 1 sampleRice

/-- They withdraw, enrol again and pay again. -/
def sampleSecondRound : List Call :=
  sampleFirstRound ++
    [.cancelSubscription (sampleDraw 15 15) (.ofNat 1) sampleProgramme,
      .subscribe (sampleDraw 16 16) (.ofNat 1) sampleProgramme ⟨sampleRice, 2, none⟩,
      .createIntent (sampleDraw 17 17) (.ofNat 1) ⟨some ((sampleDraw 10 10).uuid 0), none⟩ "again",
      .pay (sampleDraw 18 18) (.ofNat 1) ((sampleDraw 17 17).uuid 0) "again"]

/-- The programme of the sample while it is open. -/
def sampleOpened : FoodAjoGroup :=
  ⟨sampleProgramme, .ofNat 9, "Harvest", .open, "NGN", 100, 10, .pickup, none⟩

/-- The subscription of the first member, paid at a time. -/
def samplePaidAt (paidAt : Timestamp) : FoodSubscription :=
  ⟨(sampleDraw 10 10).uuid 0, sampleProgramme, sampleRice, .ofNat 1, .active, 2, .pickup, 200,
    some paidAt⟩

theorem withdrawal_refunded_iff_sample :
    (samplePaidAt 10).amountPaidMinor = 200 ∧
      RefundsInFull (sampleDraw 19 19) (sampleAfter sampleFirstRound).db (samplePaidAt 10) := by
  refine ⟨rfl, (withdrawal_refunded_iff starts_sampleMembers rfl
    (dated_sampleAfter (by decide +kernel)) (g := sampleOpened) (by decide +kernel) rfl
    (by decide +kernel) rfl rfl (by decide) (by decide +kernel)).mpr ⟨?_, ?_, ?_, ?_⟩⟩
  · decide +kernel
  · decide +kernel
  · exact Option.isSome_iff_exists.mp (by decide +kernel)
  · decide +kernel

/-- The second time a member withdraws, the reference of the first refund is in the way. -/
theorem second_refund_refused :
    ¬ ∀ s₀ s : Desk, Starts s₀ → s₀.payments = [] → Reaches step Dated s₀ s →
      ∀ g ∈ s.db.food.groups.rows, g.status = .open →
      ∀ x ∈ s.db.food.subscriptions.rows, x.groupId = g.id → isLive x = true →
        0 < x.amountPaidMinor → ∀ ctx : Ctx,
          (∀ t ∈ s.db.ledger.transactions.rows, t.id ≠ ctx.uuid 0) → RefundsInFull ctx s.db x := by
  intro h
  obtain ⟨r, db', -, hcancel, -⟩ := h sampleMembers (sampleAfter sampleSecondRound)
    starts_sampleMembers rfl (dated_sampleAfter (by decide +kernel)) sampleOpened
    (by decide +kernel) rfl (samplePaidAt 18) (by decide +kernel) rfl rfl (by decide)
    (sampleDraw 19 19) (by decide +kernel)
  have hrefused : (cancelSubscription (sampleDraw 19 19) (sampleAfter sampleSecondRound).db
      (.ofNat 1) sampleProgramme).isOk = false := by decide +kernel
  have hok := exists_eq_ok_iff.mp ⟨_, hcancel⟩
  exact absurd (hok.symm.trans hrefused) (by decide)

end Sample

end AjoCloud.Food
