import AjoCloud.Ajo.Turns
import AjoCloud.Lib.Threads

/-!
# Holds and payouts

`executePayout` takes two database steps when a payout cannot be made yet: the transaction that
decides so and rolls back, and the write of the hold after it.  Contributions and other payouts may
be committed in between.
-/

namespace AjoCloud.Ajo

open Lib Ledger Payments

/-! ## The threads -/

/-- A request on its way: a contribution, or a payout before its transaction or before the write of
its hold. -/
inductive SettlementThread where
  | contribute (call : Call)
  | execute (userId groupId payoutScheduleId : Uuid)
  | hold (payoutScheduleId : Uuid)

/-- A call that pays a contribution, directly or through an intent. -/
def Call.isContribution : Call → Bool
  | .payContribution .. | .createIntent .. | .settleIntent .. => true
  | _ => false

/-- One database step of a request. -/
def settlementStep (ctx : Ctx) (db : Db) : SettlementThread → Db × Option SettlementThread
  | .contribute call => (step db call, none)
  | .execute userId groupId payoutScheduleId =>
      match settlePayout ctx db userId groupId payoutScheduleId with
      | .ok (_, db) => (db, none)
      | .error (.payoutHeld _ _) => (db, some (.hold payoutScheduleId))
      | .error _ => (db, none)
  | .hold payoutScheduleId => (holdPayout db payoutScheduleId, none)

/-- What a request starts as. -/
def SettlementThread.isRequest : SettlementThread → Bool
  | .contribute call => call.isContribution
  | .execute .. => true
  | .hold _ => false

/-- A hold is written on a row that is not paid. -/
def HoldsUnpaid (_ : Ctx) (db : Db) : SettlementThread → Prop
  | .hold id => ∀ r ∈ db.payoutSchedules.rows, r.id = id → r.status ≠ .paid
  | _ => True

instance (ctx : Ctx) (db : Db) (t : SettlementThread) : Decidable (HoldsUnpaid ctx db t) := by
  unfold HoldsUnpaid
  split
  · infer_instance
  · infer_instance

/-! ## A paid turn stays paid -/

/-- Every row with a payout that succeeded is paid. -/
def PaidStaysPaid (db : Db) : Prop :=
  ∀ p ∈ db.payouts.rows, p.status = .succeeded →
    ∀ r ∈ db.payoutSchedules.rows, r.id = p.scheduleId → r.status = .paid

instance (db : Db) : Decidable (PaidStaysPaid db) := by
  unfold PaidStaysPaid
  infer_instance

variable {ctx : Ctx} {db db' : Db}

/-- The payouts and their rows are the same. -/
structure SamePayouts (db db' : Db) : Prop where
  payouts : db'.payouts = db.payouts
  payoutSchedules : db'.payoutSchedules = db.payoutSchedules

theorem SamePayouts.refl (db : Db) : SamePayouts db db := ⟨rfl, rfl⟩

theorem SamePayouts.committed {α : Type} {result : Except ServiceError (α × Db)}
    (h : ∀ a db', result = .ok (a, db') → SamePayouts db db') :
    SamePayouts db (committed db result) := by
  rcases committed_cases db result with hsame | ⟨a, after, hok, hafter⟩
  · rw [hsame]
    exact .refl db
  · rw [hafter]
    exact h a after hok

theorem poolAccountWithin_samePayouts {id g pool : Uuid} {currency : String}
    (h : poolAccountWithin db id g currency = .ok (pool, db')) : SamePayouts db db' := by
  rw [(poolAccountWithin_eq_ok h).1]
  exact ⟨rfl, rfl⟩

theorem recordContributionWithin_samePayouts {memberId ledgerId : Uuid}
    {s : ContributionSchedule} {amount : Int} {key : String} {c : Contribution}
    (h : recordContributionWithin ctx db memberId s amount key ledgerId = .ok (c, db')) :
    SamePayouts db db' := by
  obtain ⟨-, -, -, hdb'⟩ := recordContributionWithin_eq_ok h
  rw [hdb']
  exact ⟨rfl, rfl⟩

theorem payContribution_samePayouts {userId groupId scheduleId : Uuid} {dto : PayContributionDto}
    {c : Contribution} (h : payContribution ctx db userId groupId scheduleId dto = .ok (c, db')) :
    SamePayouts db db' := by
  simp only [payContribution, bind_eq_ok, require_eq_ok, orThrow_eq_ok, exists_const] at h
  obtain ⟨s, -, -, slot, -, member, -, -, -, h⟩ := h
  split at h
  · cases h
    exact .refl _
  · simp only [payFresh, bind_eq_ok, require_eq_ok, mapError_eq_ok, exists_const,
      Prod.exists] at h
    obtain ⟨-, -, -, wallet, -, pool, opened, hpool, -, posting, ledger, -, hrecord⟩ := h
    have hopened := poolAccountWithin_samePayouts hpool
    have hrecorded := recordContributionWithin_samePayouts hrecord
    exact ⟨hrecorded.payouts.trans hopened.payouts,
      hrecorded.payoutSchedules.trans hopened.payoutSchedules⟩

theorem settleIntent_samePayouts {userId intentId : Uuid} {key : String} {r : PaymentIntent}
    (h : settleIntent ctx db userId intentId key = .ok (r, db')) : SamePayouts db db' := by
  simp only [settleIntent, bind_eq_ok, require_eq_ok, orThrow_eq_ok, exists_const] at h
  obtain ⟨_, -, -, h⟩ := h
  obtain ⟨intent, -, -, -, ⟨-, rfl⟩ | ⟨-, target, payer, destination, opened, posting, ledger,
    settled, hs⟩⟩ := settleFromWallet_eq_ok h
  · exact .refl _
  · have hcredit := hs.credit
    change creditPool ctx db intent.targetId intent.currency = .ok (destination, opened) at hcredit
    simp only [creditPool, bind_eq_ok, orThrow_eq_ok] at hcredit
    obtain ⟨_, -, s, -, hpool⟩ := hcredit
    have hsettle := hs.settle
    change settleContribution ctx _ _ = .ok settled at hsettle
    simp only [settleContribution, bind_eq_ok, pure_eq_ok, Prod.exists] at hsettle
    obtain ⟨o, -, c, db'', hrecord, rfl⟩ := hsettle
    have hopened := poolAccountWithin_samePayouts hpool
    have hrecorded := recordContributionWithin_samePayouts hrecord
    rw [hs.after]
    exact ⟨hrecorded.payouts.trans hopened.payouts,
      hrecorded.payoutSchedules.trans hopened.payoutSchedules⟩

/-- Contributions leave the payouts alone. -/
theorem step_samePayouts {call : Call} (h : call.isContribution = true) :
    SamePayouts db (step db call) := by
  cases call with
  | payContribution => exact .committed fun _ _ h ↦ payContribution_samePayouts h
  | createIntent =>
      refine .committed fun _ _ h ↦ ?_
      obtain ⟨_, -, hdb'⟩ := (create_eq_ok h).append
      rw [hdb']
      exact ⟨rfl, rfl⟩
  | settleIntent => exact .committed fun _ _ h ↦ settleIntent_samePayouts h
  | executePayout => cases h
  | createSwap => cases h
  | approveSwap => cases h
  | rejectSwap => cases h
  | assignStatus => cases h

theorem PaidStaysPaid.congr (h : PaidStaysPaid db) (hs : SamePayouts db db') :
    PaidStaysPaid db' := by
  unfold PaidStaysPaid
  rw [hs.payouts, hs.payoutSchedules]
  exact h

/-- Making a payout marks its row. -/
theorem PaidStaysPaid.settlePayout {userId g id : Uuid} {p : Payout} (h : PaidStaysPaid db)
    (hpay : settlePayout ctx db userId g id = .ok (p, db')) : PaidStaysPaid db' := by
  obtain ⟨r, -, -, -, slot, -, rfl | ⟨-, hmade⟩⟩ := settlePayout_eq_ok hpay
  · exact h
  · obtain ⟨recipient, wallet, pool, opened, posting, ledger, hs⟩ := payOut_eq_ok hmade
    have hopened := poolAccountWithin_samePayouts hs.credit
    intro x hx hsucceeded r' hr' hid
    rw [hs.after] at hr'
    obtain ⟨r₀, hr₀, hrow⟩ := List.mem_map.mp hr'
    rw [hopened.payoutSchedules] at hr₀
    split at hrow
    · rw [← hrow]
      rfl
    · -- The row is another's, and so is the payout.
      next hne =>
        subst hrow
        rw [hs.payouts, hopened.payouts, List.mem_append, List.mem_singleton] at hx
        rcases hx with hx | rfl
        · exact h x hx hsucceeded r₀ hr₀ hid
        · have hrow : r₀.id = r.id := hid.trans (congrArg Payout.scheduleId hs.row)
          exact absurd hrow (by simpa using hne)

/-- A hold on a row that is not paid is on a row without a payout. -/
theorem PaidStaysPaid.holdPayout {id : Uuid} (h : PaidStaysPaid db)
    (hunpaid : ∀ r ∈ db.payoutSchedules.rows, r.id = id → r.status ≠ .paid) :
    PaidStaysPaid (holdPayout db id) := by
  intro x hx hsucceeded r hr hid
  obtain ⟨r₀, hr₀, hrow⟩ := List.mem_map.mp hr
  split at hrow
  · next hheld =>
      subst hrow
      have hpaid := h x hx hsucceeded r₀ hr₀ hid
      exact absurd hpaid (hunpaid r₀ hr₀ (by simpa using hheld))
  · subst hrow
    exact h x hx hsucceeded r₀ hr₀ hid

theorem PaidStaysPaid.settlementStep {t : SettlementThread} (h : PaidStaysPaid db)
    (hrequest : ∀ call, t = .contribute call → call.isContribution = true)
    (htakes : HoldsUnpaid ctx db t) : PaidStaysPaid (settlementStep ctx db t).1 := by
  cases t with
  | contribute call => exact h.congr (step_samePayouts (hrequest call rfl))
  | execute userId g id =>
      rw [Ajo.settlementStep]
      split
      · next hpay => exact h.settlePayout hpay
      · exact h
      · exact h
  | hold id => exact h.holdPayout htakes

/-- A contribution's thread is a contribution's to the end. -/
def Contributes (_ : Db) (t : SettlementThread) : Prop :=
  ∀ call, t = .contribute call → call.isContribution = true

/-- **A paid turn stays paid while holds are written on unpaid rows.**  In every interleaving of the
steps of payouts and contributions whose holds meet the condition, a row with a payout that
succeeded is paid. -/
theorem paid_stays_paid {db : Db} {q : Pool Db SettlementThread} (h₀ : PaidStaysPaid db)
    (hrun : Reaches (Pool.advance settlementStep)
      (Pool.Admitted (fun _ t ↦ t.isRequest = true) HoldsUnpaid) ⟨db, []⟩ q) :
    PaidStaysPaid q.shared := by
  refine (Pool.invariant_of_guarantees (S := PaidStaysPaid) (T := Contributes) hrun
    ⟨h₀, nofun⟩ ?_ ?_).shared
  · rintro s t - hstart call rfl
    exact hstart
  · intro o s t hs ht htakes
    refine ⟨hs.settlementStep ht htakes, ?_, fun u hu ↦ hu⟩
    -- All that a step leaves under way is a hold.
    rintro t' ht' call rfl
    unfold settlementStep at ht'
    split at ht'
    · cases ht'
    · split at ht'
      · cases ht'
      · cases ht'
      · cases ht'
    · cases ht'

/-! ### A hold in time, and one that comes late -/

section Sample

/-- The administrator asks for the payout of the first round. -/
def sampleExecute : SettlementThread := .execute (.ofNat 1) (.ofNat 30) (.ofNat 71)

/-- Both members pay for the first round while thread 0 waits. -/
def sampleRoundPaid : List (Move SettlementThread Ctx) :=
  [.spawn (.contribute (samplePay 1 1 1)), .run 1 (sampleCtx 1),
    .spawn (.contribute (samplePay 2 1 2)), .run 1 (sampleCtx 2)]

/-- The payout is asked for too early, and held at once; once everyone has paid it is made. -/
def sampleHeldInTime : List (Move SettlementThread Ctx) :=
  [.spawn sampleExecute, .run 0 (sampleCtx 5), .run 0 (sampleCtx 6), .spawn sampleExecute] ++
    sampleRoundPaid ++ [.run 0 (sampleCtx 7)]

/-- The payout is asked for too early, and its hold is written after it has been made. -/
def sampleHeldLate : List (Move SettlementThread Ctx) :=
  [.spawn sampleExecute, .run 0 (sampleCtx 5)] ++ sampleRoundPaid ++
    [.spawn sampleExecute, .run 1 (sampleCtx 6), .run 0 (sampleCtx 7)]

/-- Where the moves lead from the sample group. -/
def sampleInterleaved (moves : List (Move SettlementThread Ctx)) : Pool Db SettlementThread :=
  moves.foldl (Pool.advance settlementStep) ⟨sampleGroup, []⟩

end Sample

theorem paid_stays_paid_sample :
    PaidStaysPaid (sampleInterleaved sampleHeldInTime).shared ∧
      (sampleInterleaved sampleHeldInTime).shared.payouts.rows.length = 1 := by
  have hstart : PaidStaysPaid sampleGroup := by decide
  exact ⟨paid_stays_paid hstart (reaches_of_allAdmitted (by decide +kernel)), by decide +kernel⟩

/-- Once the hold comes late, a row with a payout is held. -/
theorem paid_turn_held :
    ¬ ∀ (db : Db) (q : Pool Db SettlementThread), PaidStaysPaid db →
      Reaches (Pool.advance settlementStep)
        (Pool.Admitted (fun _ t ↦ t.isRequest = true) fun _ _ _ ↦ True) ⟨db, []⟩ q →
      PaidStaysPaid q.shared := by
  intro h
  have hrun : Reaches (Pool.advance settlementStep)
      (Pool.Admitted (fun _ t ↦ t.isRequest = true) fun _ _ _ ↦ True) ⟨sampleGroup, []⟩
      (sampleInterleaved sampleHeldLate) := reaches_of_allAdmitted (by decide +kernel)
  exact absurd (h sampleGroup _ (by decide) hrun) (by decide +kernel)

end AjoCloud.Ajo
