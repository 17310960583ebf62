import AjoCloud.Food.Refunds

/-!
# Once buying has begun, and once a programme is called off

Whether a member can still enrol or have their money back is decided by the status a programme has at
the moment.  The lifecycle lets a programme that was active be suspended and opened again, and an open
programme be called off with money in its escrow.
-/

namespace AjoCloud.Food

open Lib ServiceError Ledger Payments

variable {s s' : Desk} {call : Call} {g : FoodAjoGroup} {x : FoodSubscription} {programmeId : Uuid}

/-! ## The statuses of a programme -/

/-- A programme keeps its status in a step, or the step was a transition of it. -/
theorem Effect.status (h : Effect s call s') (hg : g ∈ s.db.food.groups.rows) :
    g ∈ s'.db.food.groups.rows ∨
      ∃ ctx userId status, call = .transitionProgramme ctx userId g.id status ∧
        canTransitionProgramme g.status status = true ∧
        moveProgramme ctx.now status g ∈ s'.db.food.groups.rows := by
  cases h with
  | aside _ ha => exact .inl (ha.groups ▸ hg)
  | created _ g' ps ha =>
      rw [insertRow_eq_ok ha.groups]
      exact .inl (List.mem_append_left _ hg)
  | moved _ ctx userId g' status asked ha =>
      by_cases hid : g.id = g'.id
      · obtain rfl : g = g' := group_eq_of_id hg ha.mem hid
        refine .inr ⟨ctx, userId, status, asked, ha.allowed, ?_⟩
        rw [ha.groups]
        exact List.mem_map.mpr ⟨g, hg, if_pos (decide_eq_true rfl)⟩
      · rw [ha.groups]
        refine .inl (List.mem_map.mpr ⟨g, hg, if_neg ?_⟩)
        rw [decide_eq_true_eq]
        exact hid
  | edited _ p dto ha => exact .inl (by rw [ha.after]; exact hg)
  | subscribed _ y _ _ after => exact .inl (by rw [after]; exact hg)
  | paid _ _ _ e ha => exact .inl (ha.groups ▸ hg)
  | withdrawn _ _ _ _ _ e ha => exact .inl (ha.groups ▸ hg)

/-- The programmes after a step: new drafts, and those that were there. -/
theorem Effect.group_cases (h : Effect s call s') (hg : g ∈ s'.db.food.groups.rows) :
    g ∈ s.db.food.groups.rows ∨ (g.status = .draft ∧ ∀ g' ∈ s.db.food.groups.rows, g'.id ≠ g.id) ∨
      ∃ ctx userId status, ∃ g₀ ∈ s.db.food.groups.rows,
        call = .transitionProgramme ctx userId g₀.id status ∧
        s'.db.food.subscriptions = s.db.food.subscriptions ∧ g = moveProgramme ctx.now status g₀ := by
  cases h with
  | aside _ ha => exact .inl (ha.groups ▸ hg)
  | created _ g' ps ha =>
      rw [insertRow_eq_ok ha.groups, List.mem_append, List.mem_singleton] at hg
      rcases hg with hg | rfl
      · exact .inl hg
      · exact .inr (.inl ⟨ha.draft, not_clash_of_insertRow ha.groups⟩)
  | moved _ ctx userId g' status asked ha =>
      rw [ha.groups] at hg
      rcases mem_rewrite (fun y hy hid ↦ group_eq_of_id hy ha.mem (of_decide_eq_true hid)) hg with
        ⟨hg, -⟩ | rfl
      · exact .inl hg
      · exact .inr (.inr ⟨ctx, userId, status, g', ha.mem, asked, by rw [ha.after], rfl⟩)
  | edited _ p dto ha => exact .inl (by rw [ha.after] at hg; exact hg)
  | subscribed _ y _ _ after => exact .inl (by rw [after] at hg; exact hg)
  | paid _ _ _ e ha => exact .inl (ha.groups ▸ hg)
  | withdrawn _ _ _ _ _ e ha => exact .inl (ha.groups ▸ hg)

/-! ## Once buying has begun -/

/-- A programme that is active carries the time it went live. -/
def Stamped (s : Desk) : Prop :=
  ∀ g ∈ s.db.food.groups.rows, g.status = .active → g.activatedAt ≠ none

theorem Stamped.step (h : Stamped s) (he : Effect s call s') : Stamped s' := by
  intro g hg hactive
  rcases he.group_cases hg with hg | ⟨hdraft, -⟩ | ⟨ctx, _, status, g₀, hg₀, -, -, rfl⟩
  · exact h g hg hactive
  · rw [hdraft] at hactive
    cases hactive
  · have hstatus : status = .active := hactive
    simp only [moveProgramme, hstatus, true_and]
    split
    · exact nofun
    · next hstamped => exact hstamped

/-- What a step leaves of a programme's paid subscriptions, its escrow and its enrolments. -/
structure Commits (s s' : Desk) (programmeId : Uuid) : Prop where
  paid : ∀ x ∈ s.db.food.subscriptions.rows, x.groupId = programmeId → 0 < x.amountPaidMinor →
    x ∈ s'.db.food.subscriptions.rows
  escrow : escrowBalance s.db programmeId ≤ escrowBalance s'.db programmeId
  enrolled : ∀ y ∈ s'.db.food.subscriptions.rows, y.groupId = programmeId → isLive y = true →
    ∃ x ∈ s.db.food.subscriptions.rows, x.id = y.id ∧ isLive x = true ∧ x.quantity = y.quantity

/-- A step that leaves the subscriptions and the escrow alone. -/
theorem Commits.of_eq (hsubscriptions : s'.db.food.subscriptions = s.db.food.subscriptions)
    (hescrow : escrowBalance s'.db programmeId = escrowBalance s.db programmeId) :
    Commits s s' programmeId := by
  refine ⟨fun x hx _ _ ↦ hsubscriptions ▸ hx, le_of_eq hescrow.symm, fun y hy _ hlive ↦ ?_⟩
  exact ⟨y, hsubscriptions ▸ hy, rfl, hlive, rfl⟩

/-- A programme that is not open keeps its members and its money. -/
theorem Sound.commits (h : Sound s) (he : Effect s call s') (hg : g ∈ s.db.food.groups.rows)
    (hclosed : g.status ≠ .open) : Commits s s' g.id := by
  cases he with
  | aside _ ha => exact .of_eq ha.subscriptions (ha.escrow g.id)
  | created _ g' ps ha =>
      exact .of_eq (by rw [ha.after]) (by rw [escrowBalance, ha.after, escrowBalance])
  | moved _ ctx _ g' status _ ha =>
      exact .of_eq (by rw [ha.after]) (by rw [escrowBalance, ha.after, escrowBalance])
  | edited _ p dto ha =>
      exact .of_eq (by rw [ha.after]) (by rw [escrowBalance, ha.after, escrowBalance])
  | subscribed _ y may hy after =>
      have hother : y.groupId ≠ g.id := by
        intro hid
        obtain ⟨g', hg', hgid, hopen, -⟩ := may.room
        rw [group_eq_of_id hg' hg (hgid.trans hid)] at hopen
        exact hclosed hopen
      refine ⟨?_, by rw [escrowBalance, escrowBalance, after], ?_⟩
      · intro x hx hgroup hpaid
        cases hy with
        | joined _ insert =>
            rw [insertRow_eq_ok insert]
            exact List.mem_append_left _ hx
        | rejoined z mem _ renewed rows =>
            rw [rows]
            refine List.mem_map.mpr ⟨x, hx, if_neg ?_⟩
            rw [decide_eq_true_eq]
            intro hid
            rw [renewed, ← subscription_eq_of_id hx mem hid] at hother
            exact hother hgroup
      · intro z hz hgroup hlive
        rcases hy.mem_cases hz with hz | rfl
        · exact ⟨z, hz, rfl, hlive, rfl⟩
        · exact absurd hgroup hother
  | paid now fresh _ e ha =>
      have hmem := ha.stored.subscription
      refine ⟨?_, ?_, ?_⟩
      · intro x hx _ hpaid
        rw [ha.subscriptions]
        refine List.mem_map.mpr ⟨x, hx, if_neg ?_⟩
        rw [decide_eq_true_eq]
        intro hid
        -- What is paid already is not paid again.
        obtain ⟨p, -, -, -, hsettlement⟩ := (h.subscriptions x hx).package
        rw [subscription_eq_of_id hx hmem hid] at hsettlement hpaid
        cases hsettlement with
        | active status =>
            rw [ha.pending] at status
            cases status
        | unpaid _ zero => omega
      · have howing := ha.owing
        rw [escrowBalance, escrowBalance, ha.escrow]
        split
        · omega
        · omega
      · intro y hy _ hlive
        rw [ha.subscriptions] at hy
        rcases mem_rewriteSubscription hmem hy with ⟨hy, -⟩ | rfl
        · exact ⟨y, hy, rfl, hlive, rfl⟩
        · exact ⟨e.subscription, hmem, rfl, by simp [isLive, ha.pending], rfl⟩
  | withdrawn _ _ _ _ _ e ha =>
      have hmem := ha.stored.subscription
      have hunpaid : e.subscription.groupId = g.id → ¬ 0 < e.subscription.amountPaidMinor := by
        intro hid hpaid
        have hopen := ha.early hpaid
        rw [group_eq_of_id ha.stored.group hg (ha.stored.group_id.trans hid)] at hopen
        exact hclosed hopen
      have horder := h.subscriptions _ hmem
      refine ⟨?_, ?_, ?_⟩
      · intro x hx hgroup hpaid
        rw [ha.subscriptions]
        refine List.mem_map.mpr ⟨x, hx, if_neg ?_⟩
        rw [decide_eq_true_eq]
        intro hid
        rw [subscription_eq_of_id hx hmem hid] at hgroup hpaid
        exact hunpaid hgroup hpaid
      · have hnonneg := horder.nonneg
        rw [escrowBalance, escrowBalance, ha.escrow horder.refundable]
        split
        · next hid =>
            have hzero := hunpaid hid.symm
            omega
        · omega
      · intro y hy _ hlive
        rw [ha.subscriptions] at hy
        rcases mem_rewriteSubscription hmem hy with ⟨hy, -⟩ | rfl
        · exact ⟨y, hy, rfl, hlive, rfl⟩
        · cases hlive

/-- The call is admitted, and does not open a programme again that has been active. -/
def NotReopening (s : Desk) (call : Call) : Prop :=
  Admitted s call ∧ match call with
    | .transitionProgramme _ _ programmeId .open =>
        ∀ g ∈ s.db.food.groups.rows, g.id = programmeId → g.activatedAt = none
    | _ => True

/-- A programme that has been active, and is not open. -/
def Underway (s : Desk) (programmeId : Uuid) : Prop :=
  ∃ g ∈ s.db.food.groups.rows, g.id = programmeId ∧ g.activatedAt ≠ none ∧ g.status ≠ .open

theorem Underway.step (h : Underway s programmeId) (he : Effect s call s')
    (hk : NotReopening s call) : Underway s' programmeId := by
  obtain ⟨g, hg, hid, hstamped, hclosed⟩ := h
  rcases he.status hg with hkept | ⟨ctx, userId, status, asked, -, hmoved⟩
  · exact ⟨g, hkept, hid, hstamped, hclosed⟩
  · refine ⟨_, hmoved, hid, ?_, ?_⟩
    · simp only [moveProgramme]
      split
      · exact nofun
      · exact hstamped
    · rintro hopen
      have hstatus : status = .open := hopen
      subst hstatus
      rw [asked] at hk
      exact hstamped (hk.2 g hg rfl)

/-- **Buying commits the members and the money.**  In every run in which no programme that has been
active is opened again: once a programme is active, whatever is called later, no subscription that is
paid changes, nothing leaves the escrow, and nobody enrols.  A call without effect need not meet the
condition. -/
theorem procurement_commits {s₀ s₁ s₂ : Desk} (h₀ : Starts s₀) (h₁ : Reaches step Admitted s₀ s₁)
    {g : FoodAjoGroup} (hg : g ∈ s₁.db.food.groups.rows) (hactive : g.status = .active)
    (h₂ : Reaches step (Effective step NotReopening) s₁ s₂) {call : Call} (hk : Admitted s₂ call) :
    Commits s₂ (step s₂ call) g.id := by
  obtain ⟨hsound₁, hstamped⟩ : Sound s₁ ∧ Stamped s₁ := by
    refine h₁.invariant (I := fun s ↦ Sound s ∧ Stamped s) ⟨h₀.sound, ?_⟩ ?_
    · rw [Stamped, h₀.1]
      exact List.forall_mem_nil _
    · rintro s call ⟨hs, hst⟩ hcall
      exact ⟨hs.step hcall, hst.step (step_effect hs.intents hcall)⟩
  have hclosed : g.status ≠ .open := by
    rw [hactive]
    exact nofun
  obtain ⟨hsound, g', hg', hid, -, hclosed'⟩ : Sound s₂ ∧ Underway s₂ g.id := by
    refine h₂.of_effective.invariant (I := fun s ↦ Sound s ∧ Underway s g.id)
      ⟨hsound₁, g, hg, rfl, hstamped g hg hactive, hclosed⟩ ?_
    rintro s call ⟨hs, hu⟩ hcall
    exact ⟨hs.step hcall.1, hu.step (step_effect hs.intents hcall.1) hcall⟩
  exact hid ▸ hsound.commits (step_effect hsound.intents hk) hg' hclosed'

section Sample

/-- The coordinator moves the programme of the sample; `n` numbers the call. -/
def sampleMoves (n : Nat) (status : FoodAjoStatus) : Call :=
  .transitionProgramme (sampleDraw n n) (.ofNat 9) sampleProgramme status

/-- The first member has paid, and buying has begun. -/
def sampleBuying : List Call := sampleFirstRound ++ [sampleMoves 20 .active]

/-- The programme of the sample while it is active. -/
def sampleActive : FoodAjoGroup :=
  ⟨sampleProgramme, .ofNat 9, "Harvest", .active, "NGN", 100, 10, .pickup, some 20⟩

theorem procurement_commits_sample :
    sampleActive ∈ (sampleAfter sampleBuying).db.food.groups.rows ∧
      Commits (step (sampleAfter sampleBuying) (sampleMoves 21 .suspended))
        (step (step (sampleAfter sampleBuying) (sampleMoves 21 .suspended))
          (.cancelSubscription (sampleDraw 22 22) (.ofNat 1) sampleProgramme)) sampleProgramme := by
  have hmem : sampleActive ∈ (sampleAfter sampleBuying).db.food.groups.rows := by decide +kernel
  refine ⟨hmem, procurement_commits starts_sampleMembers (reaches_sampleAfter (by decide +kernel))
    hmem rfl ?_ trivial⟩
  exact ((Reaches.refl _).call _ ⟨trivial, trivial⟩).effective

/-- A programme that was active is suspended and opened again; then a member has their money back. -/
theorem reopened_programme_refunds :
    ¬ ∀ s₀ s₁ s₂ : Desk, Starts s₀ → Reaches step Admitted s₀ s₁ →
      ∀ g ∈ s₁.db.food.groups.rows, g.status = .active → Reaches step Admitted s₁ s₂ →
        ∀ call, Admitted s₂ call → Commits s₂ (step s₂ call) g.id := by
  intro h
  have hrun : Reaches step Admitted (sampleAfter sampleBuying)
      (step (step (sampleAfter sampleBuying) (sampleMoves 21 .suspended)) (sampleMoves 22 .open)) :=
    ((Reaches.refl _).call _ trivial).call _ trivial
  have hkept := (h sampleMembers (sampleAfter sampleBuying) _ starts_sampleMembers
    (reaches_sampleAfter (by decide +kernel)) sampleActive (by decide +kernel) rfl hrun
    (.cancelSubscription (sampleDraw 23 23) (.ofNat 1) sampleProgramme) trivial).paid
    (samplePaidAt 10) (by decide +kernel) rfl (by decide)
  revert hkept
  decide +kernel

end Sample

/-! ## Once a programme is called off -/

/-- Members can have back what they paid for the programme, or there is nothing in its escrow. -/
def Recoverable (s : Desk) (programmeId : Uuid) : Prop :=
  (∀ x ∈ s.db.food.subscriptions.rows, x.groupId = programmeId → 0 < x.amountPaidMinor →
    ∃ ctx, RefundsInFull ctx s.db x) ∨ escrowBalance s.db programmeId = 0

/-- Nothing is paid on the subscriptions of the programme. -/
def Unpaid (s : Desk) (programmeId : Uuid) : Prop :=
  ∀ x ∈ s.db.food.subscriptions.rows, x.groupId = programmeId → x.amountPaidMinor = 0

theorem Sound.escrow_eq_zero_iff (h : Sound s) :
    escrowBalance s.db programmeId = 0 ↔ Unpaid s programmeId := by
  rw [h.balance, paidTotal]
  constructor
  · intro hzero x hx hgroup
    have heq := (sumWhere_le_iff (f := fun _ ↦ 0) (g := fun y : FoodSubscription ↦
      y.amountPaidMinor) (p := fun y ↦ y.groupId = programmeId)
      fun y hy _ ↦ (h.subscriptions y hy).nonneg).mp (by
        rw [hzero]
        simp [sumWhere]) x hx (decide_eq_true hgroup)
    exact heq.symm
  · intro hunpaid
    rw [sumWhere_congr (q := fun _ ↦ false) (g := fun _ ↦ 0) fun x hx ↦ ?_]
    · exact sumWhere_eq_zero fun _ _ ↦ by simp
    · split
      · next hgroup => exact hunpaid x hx (of_decide_eq_true hgroup)
      · rfl

/-- What was paid is refunded while the programme is open only. -/
theorem open_of_refundsInFull {db : Db} {ctx : Ctx} (hx : x ∈ db.food.subscriptions.rows)
    (hpaid : 0 < x.amountPaidMinor) (h : RefundsInFull ctx db x) :
    ∃ g ∈ db.food.groups.rows, g.id = x.groupId ∧ g.status = .open := by
  obtain ⟨r, db', -, hcancel, hid, -⟩ := h
  simp only [cancelSubscription, bind_eq_ok, require_eq_ok, orThrow_eq_ok, pure_eq_ok, exists_const,
    Prod.mk.injEq] at hcancel
  obtain ⟨y, hy, g, hg, p, -, -, refunded, hrefund, _, -, rfl, -⟩ := hcancel
  obtain rfl : y = x := subscription_eq_of_id (Table.mem_of_find? hy) hx hid
  rcases refundWithin_eq_ok.mp hrefund with ⟨hnothing, -⟩ | ⟨-, hopen, -⟩
  · omega
  · exact ⟨g, Table.mem_of_find? hg, by simpa using Table.prop_of_find? hg, hopen⟩

/-- The money of a programme that is called off can be had back only when there is none. -/
theorem Sound.recoverable_iff (h : Sound s) (hg : g ∈ s.db.food.groups.rows)
    (hcancelled : g.status = .cancelled) : Recoverable s g.id ↔ Unpaid s g.id := by
  constructor
  · rintro (hrefunds | hzero)
    · intro x hx hgroup
      by_contra hne
      have hpaid : 0 < x.amountPaidMinor := lt_of_le_of_ne (h.subscriptions x hx).nonneg (Ne.symm hne)
      obtain ⟨ctx, hrefund⟩ := hrefunds x hx hgroup hpaid
      obtain ⟨g', hg', hid, hopen⟩ := open_of_refundsInFull hx hpaid hrefund
      rw [group_eq_of_id hg' hg (hid.trans hgroup), hcancelled] at hopen
      cases hopen
    · exact h.escrow_eq_zero_iff.mp hzero
  · intro hunpaid
    exact .inr (h.escrow_eq_zero_iff.mpr hunpaid)

/-- The call is admitted, and calls no programme off while something is paid on its subscriptions. -/
def SettledFirst (s : Desk) (call : Call) : Prop :=
  Admitted s call ∧ match call with
    | .transitionProgramme _ _ programmeId .cancelled => Unpaid s programmeId
    | _ => True

/-- Nothing is paid on the subscriptions of programmes that are called off. -/
def CalledOffUnpaid (s : Desk) : Prop :=
  ∀ g ∈ s.db.food.groups.rows, g.status = .cancelled → Unpaid s g.id

/-- A step leaves a programme that members cannot pay for unpaid. -/
theorem Sound.unpaid_step (h : Sound s) (he : Effect s call s') (hg : g ∈ s.db.food.groups.rows)
    (hclosed : acceptsPayment g.status = false) (hunpaid : Unpaid s g.id) : Unpaid s' g.id := by
  intro x hx hgroup
  cases he with
  | aside _ ha => exact hunpaid x (ha.subscriptions ▸ hx) hgroup
  | created _ g' ps ha => exact hunpaid x (by rw [ha.after] at hx; exact hx) hgroup
  | moved _ ctx _ g' status _ ha => exact hunpaid x (by rw [ha.after] at hx; exact hx) hgroup
  | edited _ p dto ha => exact hunpaid x (by rw [ha.after] at hx; exact hx) hgroup
  | subscribed _ y may hy after =>
      rcases hy.mem_cases hx with hx | rfl
      · exact hunpaid x hx hgroup
      · exact h.unpaid_of_subscribed hy
  | paid _ _ _ e ha =>
      rw [ha.subscriptions] at hx
      rcases mem_rewriteSubscription ha.stored.subscription hx with ⟨hx, -⟩ | rfl
      · exact hunpaid x hx hgroup
      · have haccepts := ha.accepts
        rw [group_eq_of_id ha.stored.group hg (ha.stored.group_id.trans hgroup), hclosed] at haccepts
        cases haccepts
  | withdrawn _ _ _ _ _ e ha =>
      rw [ha.subscriptions] at hx
      rcases mem_rewriteSubscription ha.stored.subscription hx with ⟨hx, -⟩ | rfl
      · exact hunpaid x hx hgroup
      · rfl

theorem CalledOffUnpaid.step (h : CalledOffUnpaid s) (hs : Sound s) (he : Effect s call s')
    (hk : SettledFirst s call) : CalledOffUnpaid s' := by
  intro g hg hcancelled
  rcases he.group_cases hg with hmem | ⟨hdraft, -⟩ | ⟨ctx, _, status, g₀, hg₀, asked, hsame, rfl⟩
  · exact hs.unpaid_step he hmem (by rw [hcancelled]; rfl) (h g hmem hcancelled)
  · rw [hdraft] at hcancelled
    cases hcancelled
  · have hstatus : status = .cancelled := hcancelled
    subst hstatus
    rw [asked] at hk
    intro x hx hgroup
    exact hk.2 x (hsame ▸ hx) hgroup

/-- **Calling a programme off strands no money, when it is settled first.**  In every run in which no
programme is called off while something is paid on its subscriptions, in every state, the members of a
programme that is called off can have back what they paid, or there is nothing in its escrow. -/
theorem cancelled_programme_recoverable {s₀ s : Desk} (h₀ : Starts s₀)
    (h : Reaches step SettledFirst s₀ s) {g : FoodAjoGroup} (hg : g ∈ s.db.food.groups.rows)
    (hcancelled : g.status = .cancelled) : Recoverable s g.id := by
  obtain ⟨hs, hunpaid⟩ : Sound s ∧ CalledOffUnpaid s := by
    refine h.invariant (I := fun s ↦ Sound s ∧ CalledOffUnpaid s) ⟨h₀.sound, ?_⟩ ?_
    · rw [CalledOffUnpaid, h₀.1]
      exact List.forall_mem_nil _
    · rintro s call ⟨hs, hunpaid⟩ hk
      exact ⟨hs.step hk.1, hunpaid.step hs (step_effect hs.intents hk.1) hk⟩
  exact (hs.recoverable_iff hg hcancelled).mpr (hunpaid g hg hcancelled)

/-- A programme that is called off stays so, and so does what is paid on it. -/
theorem Sound.stranded_step (h : Sound s) (he : Effect s call s') (hg : g ∈ s.db.food.groups.rows)
    (hcancelled : g.status = .cancelled) : g ∈ s'.db.food.groups.rows ∧ Commits s s' g.id := by
  refine ⟨?_, h.commits he hg (by rw [hcancelled]; exact nofun)⟩
  rcases he.status hg with hkept | ⟨ctx, userId, status, -, hallowed, -⟩
  · exact hkept
  · rw [hcancelled] at hallowed
    cases hallowed

/-- The condition cannot be weakened: money that is in the escrow of a programme that is called off is
there for good. -/
theorem stranded_forever {s₀ s₁ s₂ : Desk} (h₀ : Starts s₀) (h₁ : Reaches step Admitted s₀ s₁)
    {g : FoodAjoGroup} (hg : g ∈ s₁.db.food.groups.rows) (hcancelled : g.status = .cancelled)
    (hpaid : ¬ Unpaid s₁ g.id) (h₂ : Reaches step Admitted s₁ s₂) : ¬ Recoverable s₂ g.id := by
  have hs₁ := sound_of_reaches h₀ h₁
  obtain ⟨x, hx, hgroup, hpos⟩ : ∃ x ∈ s₁.db.food.subscriptions.rows, x.groupId = g.id ∧
      0 < x.amountPaidMinor := by
    by_contra hnone
    push Not at hnone
    refine hpaid fun x hx hgroup ↦ ?_
    exact le_antisymm (hnone x hx hgroup) (hs₁.subscriptions x hx).nonneg
  obtain ⟨hs₂, hg₂, hx₂⟩ : Sound s₂ ∧ g ∈ s₂.db.food.groups.rows ∧
      x ∈ s₂.db.food.subscriptions.rows := by
    refine h₂.invariant (I := fun s ↦ Sound s ∧ g ∈ s.db.food.groups.rows ∧
      x ∈ s.db.food.subscriptions.rows) ⟨hs₁, hg, hx⟩ ?_
    rintro s call ⟨hs, hmem, hxs⟩ hk
    obtain ⟨hkept, hcommits⟩ := hs.stranded_step (step_effect hs.intents hk) hmem hcancelled
    exact ⟨hs.step hk, hkept, hcommits.paid x hxs hgroup hpos⟩
  intro hrecoverable
  have hzero := (hs₂.recoverable_iff hg₂ hcancelled).mp hrecoverable x hx₂ hgroup
  omega

section Sample

theorem cancelled_programme_recoverable_sample :
    ∃ g ∈ (sampleAfter (sampleOpening ++ [sampleMoves 20 .cancelled])).db.food.groups.rows,
      g.status = .cancelled ∧
        Recoverable (sampleAfter (sampleOpening ++ [sampleMoves 20 .cancelled])) g.id := by
  have hmem : ({ sampleOpened with status := .cancelled } : FoodAjoGroup) ∈
      (sampleAfter (sampleOpening ++ [sampleMoves 20 .cancelled])).db.food.groups.rows := by
    decide +kernel
  refine ⟨_, hmem, rfl, cancelled_programme_recoverable starts_sampleMembers ?_ hmem rfl⟩
  have hopening : Reaches step SettledFirst sampleMembers (sampleAfter sampleOpening) :=
    reaches_of_allAdmitted ⟨⟨trivial, trivial⟩, ⟨trivial, trivial⟩, trivial⟩
  refine hopening.call (sampleMoves 20 .cancelled) ⟨trivial, ?_⟩
  have hnobody : (sampleAfter sampleOpening).db.food.subscriptions.rows = [] := by decide +kernel
  intro x hx
  rw [hnobody] at hx
  cases hx

/-- The coordinator calls off a programme that a member has paid for. -/
theorem cancelled_programme_strands :
    ¬ ∀ s₀ s : Desk, Starts s₀ → Reaches step Admitted s₀ s → ∀ g ∈ s.db.food.groups.rows,
      g.status = .cancelled → Recoverable s g.id := by
  intro h
  have hrun : Reaches step Admitted sampleMembers
      (sampleAfter (sampleFirstRound ++ [sampleMoves 20 .cancelled])) :=
    reaches_sampleAfter (by decide +kernel)
  have hmem : ({ sampleOpened with status := .cancelled } : FoodAjoGroup) ∈
      (sampleAfter (sampleFirstRound ++ [sampleMoves 20 .cancelled])).db.food.groups.rows := by
    decide +kernel
  have hrecoverable := h sampleMembers _ starts_sampleMembers hrun _ hmem rfl
  have hunpaid := ((sound_of_reaches starts_sampleMembers hrun).recoverable_iff hmem rfl).mp
    hrecoverable (samplePaidAt 10) (by decide +kernel) rfl
  cases hunpaid

end Sample

end AjoCloud.Food
