import AjoCloud.Ledger.Reversal
import AjoCloud.Lib.Transaction
import AjoCloud.Referrals.Cap

/-!
# Clawing a reward back

`onDepositReversed` takes a reward back when the deposit that earned it is reversed.  The posting is
reversed by `LedgerService.reverse`, which commits a transaction of its own in the middle of the one
that marks the reward, the qualification and the referral.  A failure in between undoes the marks and
not the reversal; and since every reversal carries the same reference, which is unique, the ledger
accepts one of them and no other.
-/

namespace AjoCloud.Referrals

open Lib ServiceError Ledger

/-! ## `ReferralsService.onDepositReversed` -/

/-- The key for undoing an award whose qualifying deposit was reversed. -/
def rewardReversalIdempotencyKey (rewardId : Uuid) : String :=
  "referral-reward-reversal:" ++ rewardId.toString

/-- The reference of every such reversal. -/
def rewardReversalReference : String := "Referral reward reversed: qualifying deposit was reversed"

/-- The places where the call waits for the database, and can fail. -/
inductive ClawbackStep where
  | findQualification
  | findReward
  | reverse
  | updateReward
  | updateQualification
  | updateReferral
  | createAuditLog
  | commit
  /-- Everything is written, and the answer gets lost. -/
  | answer
deriving DecidableEq, Repr

/-- A failure: where it strikes, and what is thrown there. -/
structure Outage where
  step : ClawbackStep
  error : ServiceError

/-- The failure strikes here, or the call goes on. -/
def strikes (outage : Option Outage) (step : ClawbackStep) : Except ServiceError Unit :=
  match outage with
  | some o => if o.step = step then .error o.error else .ok ()
  | none => .ok ()

/-- A lookup, which answers what is there unless the failure strikes at it. -/
def lookup {α : Type} (outage : Option Outage) (step : ClawbackStep) (f : Db → α) :
    Body ServiceError Db α :=
  Body.read fun db ↦ do
    strikes outage step
    pure (f db)

/-- The qualification that a deposit gave rise to and that still stands. -/
def liveQualification (db : Db) (paymentIntentId : Uuid) : Option ReferralQualification :=
  db.referrals.qualifications.find? fun q ↦
    q.qualifyingEventId = paymentIntentId ∧ q.reversedAt = none

/-- The released reward of a referral, with its posting. -/
def releasedReward (db : Db) (referralId : Uuid) : Option (ReferralReward × Uuid) := do
  let reward ← db.referrals.rewards.find? fun r ↦ r.referralId = referralId ∧ r.status = .released
  let ledgerTransactionId ← reward.ledgerTransactionId
  some (reward, ledgerTransactionId)

/-- `ledger.reverse` of the posting of a reward. -/
def reverseReward (ctx : Ctx) (outage : Option Outage) (reward : ReferralReward)
    (ledgerTransactionId : Uuid) (db : Db) : Except ServiceError (Unit × Db) := do
  strikes outage .reverse
  let (_, ledger) ← db.ledger.reverse (ctx.uuid 0) ledgerTransactionId
    (rewardReversalIdempotencyKey reward.id) rewardReversalReference
  pure ((), { db with ledger := ledger })

/-- What the surrounding transaction writes. -/
def markReversed (ctx : Ctx) (outage : Option Outage) (qualification : ReferralQualification)
    (reward : ReferralReward) (db : Db) : Except ServiceError (Unit × Db) := do
  strikes outage .updateReward
  let rewards ← updateRow db.referrals.rewards (fun r ↦ r.id = reward.id) fun r ↦
    { r with status := .reversed }
  strikes outage .updateQualification
  let qualifications ← updateRow db.referrals.qualifications (fun q ↦ q.id = qualification.id)
    fun q ↦ { q with reversedAt := some ctx.now }
  strikes outage .updateReferral
  let referrals ← updateRow db.referrals.referrals (fun r ↦ r.id = qualification.referralId) fun r ↦
    { r with status := .rejected }
  strikes outage .createAuditLog
  strikes outage .commit
  pure ((),
    { db with
      referrals := { db.referrals with
        rewards := rewards, qualifications := qualifications, referrals := referrals } })

/-- `onDepositReversed`: whether a reward was reversed, and the database it leaves, also when it
throws. -/
def onDepositReversed (ctx : Ctx) (outage : Option Outage) (paymentIntentId : Uuid) :
    Body ServiceError Db Bool := do
  let qualification? ← lookup outage .findQualification fun db ↦ liveQualification db paymentIntentId
  match qualification? with
  | none => pure false
  | some qualification =>
      let found? ← lookup outage .findReward fun db ↦ releasedReward db qualification.referralId
      match found? with
      | none => pure false
      | some (reward, ledgerTransactionId) =>
          -- the ledger commits here; what is thrown from now on does not take it back
          Body.call (reverseReward ctx outage reward ledgerTransactionId)
          Body.call (markReversed ctx outage qualification reward)
          lookup outage .answer fun _ ↦ true

/-! ## What one call does -/

variable {ctx : Ctx} {outage : Option Outage} {db db' : Db} {paymentIntentId : Uuid}

/-- What a call finds to claw back. -/
structure Claim where
  qualification : ReferralQualification
  reward : ReferralReward
  ledgerTransactionId : Uuid

/-- The call looks for the qualification of the deposit, then for a released reward of its
referral. -/
def findClaim (db : Db) (paymentIntentId : Uuid) : Option Claim := do
  let qualification ← liveQualification db paymentIntentId
  let (reward, ledgerTransactionId) ← releasedReward db qualification.referralId
  some ⟨qualification, reward, ledgerTransactionId⟩

/-- The failure comes after the ledger has committed and before the rest has. -/
def ClawbackStep.isBetween : ClawbackStep → Bool
  | .updateReward => true
  | .updateQualification => true
  | .updateReferral => true
  | .createAuditLog => true
  | .commit => true
  | _ => false

/-- The call is cut off between the commit of the ledger and its own. -/
def CutOff (outage : Option Outage) : Prop := outage.any (·.step.isBetween) = true

instance (outage : Option Outage) : Decidable (CutOff outage) :=
  inferInstanceAs (Decidable (_ = true))

theorem findClaim_eq_some {claim : Claim} (h : findClaim db paymentIntentId = some claim) :
    liveQualification db paymentIntentId = some claim.qualification ∧
      releasedReward db claim.qualification.referralId =
        some (claim.reward, claim.ledgerTransactionId) := by
  simp only [findClaim, Option.bind_eq_bind, Option.bind_eq_some_iff] at h
  obtain ⟨qualification, hq, ⟨reward, id⟩, hr, h⟩ := h
  cases h
  exact ⟨hq, hr⟩

theorem strikes_eq_ok {step : ClawbackStep} {u : Unit} :
    strikes outage step = .ok u ↔ ∀ o ∈ outage, o.step ≠ step := by
  cases outage with
  | none => simp [strikes]
  | some o =>
      by_cases hstep : o.step = step
      · simp [strikes, hstep]
      · simp [strikes, hstep]

/-- A call that is cut off in between got that far. -/
theorem strikes_of_cutOff {step : ClawbackStep} (h : CutOff outage)
    (hstep : step.isBetween = false) : strikes outage step = .ok () := by
  refine strikes_eq_ok.mpr ?_
  rintro o rfl rfl
  exact absurd (hstep.symm.trans h) nofun

/-- What a call leaves, and what it answers. -/
inductive Clawback (ctx : Ctx) (outage : Option Outage) (db : Db) (paymentIntentId : Uuid) :
    Except ServiceError Bool → Db → Prop
  | /-- Nothing was written. -/
    idle (answer : Except ServiceError Bool) (unanswered : answer ≠ .ok true)
      (unposted : strikes outage .findQualification = .ok () → strikes outage .findReward = .ok () →
        ∀ claim reversed, findClaim db paymentIntentId = some claim →
        reverseReward ctx outage claim.reward claim.ledgerTransactionId db ≠ .ok ((), reversed)) :
      Clawback ctx outage db paymentIntentId answer db
  | /-- The ledger has reversed the posting, and the marks were rolled back. -/
    stranded (claim : Claim) (e : ServiceError)
      (found : findClaim db paymentIntentId = some claim) (reversed : Db)
      (reverse : reverseReward ctx outage claim.reward claim.ledgerTransactionId db =
        .ok ((), reversed))
      (unmarked : markReversed ctx outage claim.qualification claim.reward reversed = .error e) :
      Clawback ctx outage db paymentIntentId (.error e) reversed
  | /-- The posting is reversed and everything is marked. -/
    clawed (claim : Claim) (answer : Except ServiceError Bool)
      (found : findClaim db paymentIntentId = some claim) (reversed marked : Db)
      (reverse : reverseReward ctx outage claim.reward claim.ledgerTransactionId db =
        .ok ((), reversed))
      (mark : markReversed ctx outage claim.qualification claim.reward reversed =
        .ok ((), marked)) (answered : outage = none → answer = .ok true) :
      Clawback ctx outage db paymentIntentId answer marked

theorem run_lookup {α : Type} {step : ClawbackStep} {f : Db → α} {a : α}
    (hstrike : strikes outage step = .ok ()) (hf : f db = a) :
    (lookup outage step f).run db = (.ok a, db) := by
  rw [lookup, Body.run_read, hstrike, hf]
  rfl

theorem run_lookup_of_error {α : Type} {step : ClawbackStep} {f : Db → α} {e : ServiceError}
    (hstrike : strikes outage step = .error e) :
    (lookup outage step f).run db = (.error e, db) := by
  rw [lookup, Body.run_read, hstrike]
  rfl

theorem run_call_of_ok {f : Db → Except ServiceError (Unit × Db)} (h : f db = .ok ((), db')) :
    (Body.call f).run db = (.ok (), db') := by
  rw [Body.run_call, h]

theorem run_call_of_error {f : Db → Except ServiceError (Unit × Db)} {e : ServiceError}
    (h : f db = .error e) : (Body.call f).run db = (.error e, db) := by
  rw [Body.run_call, h]

theorem onDepositReversed_cases (ctx : Ctx) (outage : Option Outage) (db : Db)
    (paymentIntentId : Uuid) :
    Clawback ctx outage db paymentIntentId ((onDepositReversed ctx outage paymentIntentId).run db).1
      ((onDepositReversed ctx outage paymentIntentId).run db).2 := by
  unfold onDepositReversed
  cases hfirst : strikes outage .findQualification with
  | error e =>
      rw [Body.run_bind_of_error (run_lookup_of_error hfirst)]
      refine .idle _ nofun fun hfound ↦ ?_
      rw [hfirst] at hfound
      cases hfound
  | ok _ =>
      cases hq : liveQualification db paymentIntentId with
      | none =>
          rw [Body.run_bind_of_ok (run_lookup hfirst hq)]
          refine .idle _ nofun fun _ _ claim _ hclaim ↦ ?_
          rw [(findClaim_eq_some hclaim).1] at hq
          cases hq
      | some qualification =>
          rw [Body.run_bind_of_ok (run_lookup hfirst hq)]
          cases hsecond : strikes outage .findReward with
          | error e =>
              rw [Body.run_bind_of_error (run_lookup_of_error hsecond)]
              refine .idle _ nofun fun _ hfound ↦ ?_
              rw [hsecond] at hfound
              cases hfound
          | ok _ =>
              cases hr : releasedReward db qualification.referralId with
              | none =>
                  rw [Body.run_bind_of_ok (run_lookup hsecond hr)]
                  refine .idle _ nofun fun _ _ claim _ hclaim ↦ ?_
                  obtain ⟨hq', hr'⟩ := findClaim_eq_some hclaim
                  rw [hq, Option.some.injEq] at hq'
                  rw [← hq', hr] at hr'
                  cases hr'
              | some found =>
                  obtain ⟨reward, id⟩ := found
                  rw [Body.run_bind_of_ok (run_lookup hsecond hr)]
                  have hfound : findClaim db paymentIntentId = some ⟨qualification, reward, id⟩ := by
                    rw [findClaim, hq, Option.bind_eq_bind, Option.bind_some, hr]
                    rfl
                  cases hreverse : reverseReward ctx outage reward id db with
                  | error e =>
                      rw [Body.run_bind_of_error (run_call_of_error hreverse)]
                      refine .idle _ nofun fun _ _ claim reversed hclaim ↦ ?_
                      rw [hfound] at hclaim
                      cases hclaim
                      rw [hreverse]
                      exact nofun
                  | ok result =>
                      obtain ⟨_, reversed⟩ := result
                      rw [Body.run_bind_of_ok (run_call_of_ok hreverse)]
                      cases hmark : markReversed ctx outage qualification reward reversed with
                      | error e =>
                          rw [Body.run_bind_of_error (run_call_of_error hmark)]
                          exact .stranded _ e hfound reversed hreverse hmark
                      | ok result =>
                          obtain ⟨_, marked⟩ := result
                          rw [Body.run_bind_of_ok (run_call_of_ok hmark)]
                          refine .clawed _ _ hfound reversed marked hreverse hmark ?_
                          rintro rfl
                          rfl

/-! ## Rewards and their postings -/

variable {ledger ledger' : Ledger} {reward r : ReferralReward} {claim : Claim} {id : Uuid}

/-- The posting of a reward and the reward agree: both are reversed, and a reversal of the posting
stands in the ledger, or neither is, and the reward was never clawed back. -/
def Backed (ledger : Ledger) (r : ReferralReward) (id : Uuid) : Prop :=
  ∃ t ∈ ledger.transactions.rows, t.id = id ∧ t.fits ∧
    ((r.status = .reversed ∧ t.status = .reversed ∧
        ∃ u ∈ ledger.transactions.rows, u.reversalOfId = some id) ∨
      (r.status ≠ .reversed ∧ t.status = .posted ∧
        (∀ u ∈ ledger.transactions.rows, u.reversalOfId ≠ some id) ∧
        ∀ u ∈ ledger.transactions.rows, u.idempotencyKey ≠ rewardReversalIdempotencyKey r.id))

instance (ledger : Ledger) (r : ReferralReward) (id : Uuid) : Decidable (Backed ledger r id) :=
  inferInstanceAs (Decidable (∃ t ∈ ledger.transactions.rows, _))

/-- Rewards agree with their postings, and qualifications belong to referrals. -/
structure Standing (db : Db) : Prop where
  backed : ∀ r ∈ db.referrals.rewards.rows, ∀ id ∈ r.ledgerTransactionId, Backed db.ledger r id
  referred : ∀ q ∈ db.referrals.qualifications.rows,
    ∃ f ∈ db.referrals.referrals.rows, f.id = q.referralId

instance (db : Db) : Decidable (Standing db) :=
  decidable_of_iff ((∀ r ∈ db.referrals.rewards.rows, ∀ id ∈ r.ledgerTransactionId,
      Backed db.ledger r id) ∧ ∀ q ∈ db.referrals.qualifications.rows,
        ∃ f ∈ db.referrals.referrals.rows, f.id = q.referralId)
    ⟨fun h ↦ ⟨h.1, h.2⟩, fun h ↦ ⟨h.backed, h.referred⟩⟩

/-- A reward is reversed if and only if its posting is, and its posting has exactly one reversal
then and none before. -/
def Atomic (db : Db) : Prop :=
  ∀ r ∈ db.referrals.rewards.rows, ∀ id ∈ r.ledgerTransactionId,
    (r.status = .reversed ↔ ∃ t ∈ db.ledger.transactions.rows, t.id = id ∧ t.status = .reversed) ∧
      (db.ledger.transactions.findMany fun u ↦ u.reversalOfId = some id).length =
        if r.status = .reversed then 1 else 0

instance (db : Db) : Decidable (Atomic db) :=
  inferInstanceAs (Decidable (∀ r ∈ db.referrals.rewards.rows, ∀ id ∈ r.ledgerTransactionId,
    (_ ↔ ∃ t ∈ db.ledger.transactions.rows, _) ∧ _))

theorem rewardReversalIdempotencyKey_inj {id id' : Uuid}
    (h : rewardReversalIdempotencyKey id = rewardReversalIdempotencyKey id') : id = id' := by
  unfold rewardReversalIdempotencyKey at h
  exact Uuid.toString_inj ((String.append_right_inj _).mp h)

theorem length_reversals_of_mem {u : LedgerTransaction} (hu : u ∈ ledger.transactions.rows)
    (hid : u.reversalOfId = some id) :
    (ledger.transactions.findMany fun u ↦ u.reversalOfId = some id).length = 1 := by
  have hall : (ledger.transactions.findMany fun u ↦ u.reversalOfId = some id) ⊆ [u] := by
    intro x hx
    rw [Table.mem_findMany, decide_eq_true_eq] at hx
    refine List.mem_singleton.mpr (ledger.transactions.eq_of_clash hx.1 hu (.inr ⟨?_, ?_⟩))
    · show x.reversalOfId.isSome = true
      rw [hx.2]
      rfl
    · exact hx.2.trans hid.symm
  have hmem : u ∈ ledger.transactions.findMany fun u ↦ u.reversalOfId = some id :=
    Table.mem_findMany.mpr ⟨hu, decide_eq_true hid⟩
  have hle := (ledger.transactions.nodup.filter _).length_le_of_subset hall
  exact le_antisymm hle (List.length_pos_of_mem hmem)

theorem Standing.atomic (h : Standing db) : Atomic db := by
  intro r hr id hid
  obtain ⟨t, ht, rfl, -, ⟨hreversed, htreversed, u, hu, hof⟩ | ⟨hreleased, htposted, hnone, -⟩⟩ :=
    h.backed r hr id hid
  · refine ⟨⟨fun _ ↦ ⟨t, ht, rfl, htreversed⟩, fun _ ↦ hreversed⟩, ?_⟩
    rw [if_pos hreversed]
    exact length_reversals_of_mem hu hof
  · refine ⟨⟨fun hst ↦ absurd hst hreleased, ?_⟩, ?_⟩
    · rintro ⟨t', ht', heq, hst⟩
      rw [eq_of_id ht' ht heq, htposted] at hst
      cases hst
    · rw [if_neg hreleased, List.length_eq_zero_iff, Table.findMany, List.filter_eq_nil_iff]
      intro u hu hof
      exact hnone u hu (of_decide_eq_true hof)

/-! ### The two halves of a call -/

/-- The ledger's own transaction. -/
theorem reverseReward_eq_ok (h : reverseReward ctx outage reward id db = .ok ((), db')) :
    ∃ original ∈ db.ledger.transactions.rows, original.id = id ∧ original.status = .posted ∧
      ∃ ref, Reversed db.ledger (ctx.uuid 0) original (rewardReversalIdempotencyKey reward.id)
        rewardReversalReference ref db'.ledger ∧ db'.referrals = db.referrals := by
  simp only [reverseReward, bind_eq_ok, pure_eq_ok, Prod.exists, Prod.mk.injEq] at h
  obtain ⟨-, -, ref, ledger, hreverse, -, rfl⟩ := h
  obtain ⟨original, hmem, hid, hposted, hreversed⟩ := reverse_eq_ok hreverse
  exact ⟨original, hmem, hid, hposted, ref, hreversed, rfl⟩

/-- The rows that are marked. -/
structure Marked (reward : ReferralReward) (tables tables' : ReferralTables) : Prop where
  rewards : tables'.rewards.rows = tables.rewards.rows.map fun r ↦
    if decide (r.id = reward.id) = true then { r with status := .reversed } else r
  referred : (∀ q ∈ tables.qualifications.rows, ∃ f ∈ tables.referrals.rows, f.id = q.referralId) →
    ∀ q ∈ tables'.qualifications.rows, ∃ f ∈ tables'.referrals.rows, f.id = q.referralId

theorem markReversed_eq_ok {qualification : ReferralQualification}
    (h : markReversed ctx outage qualification reward db = .ok ((), db')) :
    ¬ CutOff outage ∧ db'.ledger = db.ledger ∧ Marked reward db.referrals db'.referrals := by
  simp only [markReversed, bind_eq_ok, pure_eq_ok, strikes_eq_ok, Prod.mk.injEq] at h
  obtain ⟨-, hfirst, rewards, hrewards, -, hsecond, qualifications, hqualifications, -, hthird,
    referrals, hreferrals, -, hfourth, -, hfifth, -, rfl⟩ := h
  refine ⟨fun hcut ↦ ?_, rfl, updateRow_eq_ok hrewards, fun hreferred q hq ↦ ?_⟩
  · cases outage with
    | none => cases hcut
    | some o =>
        have hbetween : o.step.isBetween = true := hcut
        cases hstep : o.step with
        | updateReward => exact hfirst o rfl hstep
        | updateQualification => exact hsecond o rfl hstep
        | updateReferral => exact hthird o rfl hstep
        | createAuditLog => exact hfourth o rfl hstep
        | commit => exact hfifth o rfl hstep
        | findQualification => rw [hstep] at hbetween; cases hbetween
        | findReward => rw [hstep] at hbetween; cases hbetween
        | reverse => rw [hstep] at hbetween; cases hbetween
        | answer => rw [hstep] at hbetween; cases hbetween
  · have hq' : q ∈ db.referrals.qualifications.rows.map _ := updateRow_eq_ok hqualifications ▸ hq
    obtain ⟨q₀, hq₀, rfl⟩ := List.mem_map.mp hq'
    have hsame : (if decide (q₀.id = qualification.id) = true then
        { q₀ with reversedAt := some ctx.now } else q₀).referralId = q₀.referralId := by
      split
      · rfl
      · rfl
    obtain ⟨f, hf, hid⟩ := hreferred q₀ hq₀
    have hf' : _ ∈ referrals.rows := updateRow_eq_ok hreferrals ▸ List.mem_map_of_mem hf
    refine ⟨_, hf', ?_⟩
    rw [hsame, ← hid]
    split
    · rfl
    · rfl

theorem strikes_of_not_cutOff {step : ClawbackStep} (h : ¬ CutOff outage)
    (hstep : step.isBetween = true) : strikes outage step = .ok () := by
  refine strikes_eq_ok.mpr ?_
  rintro o rfl heq
  refine h ?_
  rw [← heq] at hstep
  exact hstep

/-- The marks are written when nothing cuts the call off and the rows are there. -/
theorem exists_markReversed {qualification : ReferralQualification} (h : ¬ CutOff outage)
    (hreward : reward ∈ db.referrals.rewards.rows)
    (hqualification : qualification ∈ db.referrals.qualifications.rows)
    (hreferral : ∃ f ∈ db.referrals.referrals.rows, f.id = qualification.referralId) :
    ∃ marked, markReversed ctx outage qualification reward db = .ok ((), marked) := by
  obtain ⟨f, hf, hid⟩ := hreferral
  obtain ⟨rewards, hrewards⟩ := exists_updateRow (p := fun r : ReferralReward ↦ r.id = reward.id)
    (f := fun r ↦ { r with status := .reversed }) hreward (decide_eq_true rfl) fun h ↦ h
  obtain ⟨qualifications, hqualifications⟩ := exists_updateRow
    (p := fun q : ReferralQualification ↦ q.id = qualification.id)
    (f := fun q ↦ { q with reversedAt := some ctx.now }) hqualification (decide_eq_true rfl)
    fun h ↦ h
  obtain ⟨referrals, hreferrals⟩ := exists_updateRow
    (p := fun r : Referral ↦ r.id = qualification.referralId)
    (f := fun r ↦ { r with status := .rejected }) hf (decide_eq_true hid) fun h ↦ h
  rw [markReversed, bind_of_eq_ok (strikes_of_not_cutOff h rfl), bind_of_eq_ok hrewards,
    bind_of_eq_ok (strikes_of_not_cutOff h rfl), bind_of_eq_ok hqualifications,
    bind_of_eq_ok (strikes_of_not_cutOff h rfl), bind_of_eq_ok hreferrals,
    bind_of_eq_ok (strikes_of_not_cutOff h rfl), bind_of_eq_ok (strikes_of_not_cutOff h rfl)]
  exact ⟨_, rfl⟩

/-- What a call finds. -/
theorem mem_of_findClaim (h : findClaim db paymentIntentId = some claim) :
    claim.qualification ∈ db.referrals.qualifications.rows ∧
      claim.reward ∈ db.referrals.rewards.rows ∧ claim.reward.status = .released ∧
      claim.reward.ledgerTransactionId = some claim.ledgerTransactionId := by
  obtain ⟨hq, hr⟩ := findClaim_eq_some h
  simp only [releasedReward, Option.bind_eq_bind, Option.bind_eq_some_iff] at hr
  obtain ⟨reward, hfind, id, hid, heq⟩ := hr
  cases heq
  have hprop := Table.prop_of_find? hfind
  rw [decide_eq_true_eq] at hprop
  exact ⟨Table.mem_of_find? hq, Table.mem_of_find? hfind, hprop.2, hid⟩

/-- A released reward that agrees with its posting was never clawed back. -/
theorem Standing.unclawed (h : Standing db) (hclaim : findClaim db paymentIntentId = some claim) :
    ∃ t ∈ db.ledger.transactions.rows, t.id = claim.ledgerTransactionId ∧ t.fits ∧
      t.status = .posted ∧
      (∀ u ∈ db.ledger.transactions.rows, u.reversalOfId ≠ some claim.ledgerTransactionId) ∧
      ∀ u ∈ db.ledger.transactions.rows,
        u.idempotencyKey ≠ rewardReversalIdempotencyKey claim.reward.id := by
  obtain ⟨-, hmem, hreleased, hid⟩ := mem_of_findClaim hclaim
  obtain ⟨t, ht, htid, hfits, ⟨hreversed, -⟩ | ⟨-, hposted, hnone, hkey⟩⟩ :=
    h.backed claim.reward hmem claim.ledgerTransactionId hid
  · rw [hreleased] at hreversed
    cases hreversed
  · exact ⟨t, ht, htid, hfits, hposted, hnone, hkey⟩

/-- The reversal of a reward that was never clawed back is stored, and its posting is marked. -/
theorem Standing.reversal (h : Standing db)
    (hclaim : findClaim db paymentIntentId = some claim)
    (hreverse : reverseReward ctx outage claim.reward claim.ledgerTransactionId db = .ok ((), db')) :
    db'.referrals = db.referrals ∧ ∃ t ∈ db.ledger.transactions.rows,
      t.id = claim.ledgerTransactionId ∧ t.fits ∧ ∀ u, u ∈ db'.ledger.transactions.rows ↔
        (u ∈ db.ledger.transactions.rows ∧ u.id ≠ t.id) ∨ u = { t with status := .reversed } ∨
          u = reversalTransaction (ctx.uuid 0) t (rewardReversalIdempotencyKey claim.reward.id)
            rewardReversalReference := by
  obtain ⟨t, ht, hid, hfits, -, -, hkey⟩ := h.unclawed hclaim
  obtain ⟨original, hmem, hid', -, ref, hreversed, hdb⟩ := reverseReward_eq_ok hreverse
  obtain rfl := eq_of_id hmem ht (hid'.trans hid.symm)
  cases hreversed with
  | replayed existing hexisting hkey' _ => exact absurd hkey' (hkey existing hexisting)
  | appended created _ hcreate hmarked =>
      exact ⟨hdb, original, ht, hid, hfits, fun u ↦ mem_of_reversed ht hcreate hmarked⟩

/-! ## One call -/

/-- A call of `onDepositReversed`. -/
structure ReversalCall where
  ctx : Ctx
  outage : Option Outage
  paymentIntentId : Uuid

/-- The database after a call. -/
def ReversalCall.step (db : Db) (call : ReversalCall) : Db :=
  ((onDepositReversed call.ctx call.outage call.paymentIntentId).run db).2

/-- The call gets the ledger to reverse a posting. -/
def ReversalCall.Posts (db : Db) (call : ReversalCall) : Prop :=
  ((findClaim db call.paymentIntentId).any fun claim ↦
    (reverseReward call.ctx call.outage claim.reward claim.ledgerTransactionId db).isOk) = true

/-- No call that gets the ledger to reverse a posting is cut off before its own commit. -/
def Uninterrupted (db : Db) (call : ReversalCall) : Prop := call.Posts db → ¬ CutOff call.outage

instance (db : Db) (call : ReversalCall) : Decidable (call.Posts db) :=
  inferInstanceAs (Decidable (_ = true))

instance (db : Db) (call : ReversalCall) : Decidable (Uninterrupted db call) :=
  inferInstanceAs (Decidable (call.Posts db → ¬ CutOff call.outage))

theorem posts_of_reverseReward {call : ReversalCall}
    (hclaim : findClaim db call.paymentIntentId = some claim)
    (hreverse : reverseReward call.ctx call.outage claim.reward claim.ledgerTransactionId db =
      .ok ((), db')) : call.Posts db := by
  rw [ReversalCall.Posts, hclaim, Option.any_some, hreverse]
  rfl

/-- The posting of another reward is not touched by a reversal. -/
theorem Backed.of_reversed {t : LedgerTransaction} (hne : id ≠ t.id) (hother : r.id ≠ reward.id)
    {new : Uuid} (hrows : ∀ u, u ∈ ledger'.transactions.rows ↔
      (u ∈ ledger.transactions.rows ∧ u.id ≠ t.id) ∨ u = { t with status := .reversed } ∨
        u = reversalTransaction new t (rewardReversalIdempotencyKey reward.id)
          rewardReversalReference)
    (ht : t ∈ ledger.transactions.rows) (h : Backed ledger r id) : Backed ledger' r id := by
  obtain ⟨t', ht', rfl, hfits, hstatus⟩ := h
  refine ⟨t', (hrows t').mpr (.inl ⟨ht', hne⟩), rfl, hfits, ?_⟩
  rcases hstatus with ⟨hreversed, hst, u, hu, hof⟩ | ⟨hreleased, hst, hnone, hkey⟩
  · refine .inl ⟨hreversed, hst, ?_⟩
    by_cases hut : u.id = t.id
    · -- the original that is marked keeps what it is a reversal of
      obtain rfl := eq_of_id hu ht hut
      exact ⟨_, (hrows _).mpr (.inr (.inl rfl)), hof⟩
    · exact ⟨u, (hrows u).mpr (.inl ⟨hu, hut⟩), hof⟩
  · refine .inr ⟨hreleased, hst, fun u hu ↦ ?_, fun u hu ↦ ?_⟩
    · rcases (hrows u).mp hu with ⟨hu, -⟩ | rfl | rfl
      · exact hnone u hu
      · exact hnone t ht
      · exact fun hof ↦ hne (Option.some.inj hof).symm
    · rcases (hrows u).mp hu with ⟨hu, -⟩ | rfl | rfl
      · exact hkey u hu
      · exact hkey t ht
      · exact fun heq ↦ hother (rewardReversalIdempotencyKey_inj heq).symm

/-- After a reversal and the marks, rewards agree with their postings again. -/
theorem Standing.clawed {reversed : Db} (h : Standing db)
    (hclaim : findClaim db paymentIntentId = some claim)
    (hreverse : reverseReward ctx outage claim.reward claim.ledgerTransactionId db =
      .ok ((), reversed))
    (hledger : db'.ledger = reversed.ledger)
    (hmarked : Marked claim.reward reversed.referrals db'.referrals) : Standing db' := by
  obtain ⟨-, hmem, -, hid⟩ := mem_of_findClaim hclaim
  obtain ⟨htables, t, ht, htid, hfits, hrows⟩ := h.reversal hclaim hreverse
  rw [htables] at hmarked
  refine ⟨fun r hr id hrid ↦ ?_, hmarked.referred h.referred⟩
  rw [hledger]
  rw [hmarked.rewards] at hr
  obtain ⟨r₀, hr₀, rfl⟩ := List.mem_map.mp hr
  by_cases hreward : r₀.id = claim.reward.id
  · obtain rfl := db.referrals.rewards.eq_of_clash hr₀ hmem (.inl (.inl hreward))
    rw [if_pos (decide_eq_true rfl)] at hrid ⊢
    obtain rfl : claim.ledgerTransactionId = id := Option.some.inj (hid.symm.trans hrid)
    refine ⟨_, (hrows _).mpr (.inr (.inl rfl)), htid, hfits, .inl ⟨rfl, rfl, ?_⟩⟩
    exact ⟨_, (hrows _).mpr (.inr (.inr rfl)), congrArg some htid⟩
  · rw [if_neg (by simpa using hreward)] at hrid ⊢
    refine (h.backed r₀ hr₀ id hrid).of_reversed ?_ hreward hrows ht
    rintro rfl
    -- two rewards never share a posting
    have hclash : Schema.Clash r₀ claim.reward := by
      refine .inr ⟨?_, ?_⟩
      · show r₀.ledgerTransactionId.isSome = true
        rw [hrid]
        rfl
      · exact (Option.mem_def.mp hrid).trans (htid ▸ hid.symm)
    exact hreward (congrArg (·.id) (db.referrals.rewards.eq_of_clash hr₀ hmem hclash))

/-- A reversal without the marks leaves a released reward whose posting is reversed. -/
theorem Standing.not_atomic_of_stranded (h : Standing db)
    (hclaim : findClaim db paymentIntentId = some claim)
    (hreverse : reverseReward ctx outage claim.reward claim.ledgerTransactionId db = .ok ((), db')) :
    ¬ Atomic db' := by
  obtain ⟨-, hmem, hreleased, hid⟩ := mem_of_findClaim hclaim
  obtain ⟨htables, t, ht, htid, hfits, hrows⟩ := h.reversal hclaim hreverse
  intro hatomic
  have hmem' : claim.reward ∈ db'.referrals.rewards.rows := by
    rw [htables]
    exact hmem
  have hreversed := (hatomic claim.reward hmem' claim.ledgerTransactionId hid).1.mpr
    ⟨{ t with status := .reversed }, (hrows _).mpr (.inr (.inl rfl)), htid, rfl⟩
  rw [hreleased] at hreversed
  cases hreversed

/-- Every row is there, so only a failure keeps the marks from being written. -/
theorem Standing.marks (h : Standing db) (hclaim : findClaim db paymentIntentId = some claim)
    (hreverse : reverseReward ctx outage claim.reward claim.ledgerTransactionId db = .ok ((), db'))
    (hcut : ¬ CutOff outage) :
    ∃ marked, markReversed ctx outage claim.qualification claim.reward db' = .ok ((), marked) := by
  obtain ⟨hq, hr, -, -⟩ := mem_of_findClaim hclaim
  obtain ⟨htables, -⟩ := h.reversal hclaim hreverse
  refine exists_markReversed hcut ?_ ?_ ?_
  · exact htables ▸ hr
  · exact htables ▸ hq
  · exact htables ▸ h.referred _ hq

/-- A call keeps rewards and postings together, unless it is cut off in between. -/
theorem Standing.step (h : Standing db) {call : ReversalCall} (hcall : Uninterrupted db call) :
    Standing (call.step db) := by
  have hcases := onDepositReversed_cases call.ctx call.outage db call.paymentIntentId
  rw [ReversalCall.step]
  generalize (onDepositReversed call.ctx call.outage call.paymentIntentId).run db = result at hcases ⊢
  obtain ⟨answer, after⟩ := result
  cases hcases with
  | idle _ _ _ => exact h
  | stranded claim e hclaim _ hreverse hunmarked =>
      obtain ⟨marked, hmark⟩ :=
        h.marks hclaim hreverse (hcall (posts_of_reverseReward hclaim hreverse))
      rw [hunmarked] at hmark
      cases hmark
  | clawed claim answer hclaim reversed marked hreverse hmark _ =>
      obtain ⟨-, hledger, hmarked⟩ := markReversed_eq_ok hmark
      exact h.clawed hclaim hreverse hledger hmarked

/-- A call that is cut off after the ledger has reversed a posting leaves reward and posting
apart. -/
theorem Standing.uninterrupted_of_atomic (h : Standing db) {call : ReversalCall}
    (hatomic : Atomic (call.step db)) : Uninterrupted db call := by
  intro hposts hcut
  have hcases := onDepositReversed_cases call.ctx call.outage db call.paymentIntentId
  rw [ReversalCall.step] at hatomic
  generalize (onDepositReversed call.ctx call.outage call.paymentIntentId).run db = result
    at hcases hatomic
  obtain ⟨answer, after⟩ := result
  cases hcases with
  | idle _ _ hunposted =>
      obtain ⟨claim, hclaim, hok⟩ := (Option.any_eq_true _ _).mp hposts
      obtain ⟨⟨_, reversed⟩, hreverse⟩ := exists_eq_ok_iff.mpr hok
      exact hunposted (strikes_of_cutOff hcut rfl) (strikes_of_cutOff hcut rfl) claim reversed hclaim
        hreverse
  | stranded claim e hclaim _ hreverse _ => exact h.not_atomic_of_stranded hclaim hreverse hatomic
  | clawed claim _ hclaim reversed _ hreverse hmark _ => exact (markReversed_eq_ok hmark).1 hcut

theorem fits_rewardReversalReference : fitsVarChar 80 rewardReversalReference := by
  decide +kernel

/-- With nothing in its way, a call reverses what it finds exactly when the reference is new. -/
theorem Standing.answer_iff (h : Standing db) (hclaim : findClaim db paymentIntentId = some claim)
    (hfresh : ∀ u ∈ db.ledger.transactions.rows, u.id ≠ ctx.uuid 0) :
    ((onDepositReversed ctx none paymentIntentId).run db).1 = .ok true ↔
      ∀ u ∈ db.ledger.transactions.rows, u.reference ≠ rewardReversalReference := by
  obtain ⟨hq, hr, -, -⟩ := mem_of_findClaim hclaim
  obtain ⟨t, ht, hid, hfits, hposted, hunreversed, hkey⟩ := h.unclawed hclaim
  have hfitsKey : fitsVarChar 128 (rewardReversalIdempotencyKey claim.reward.id) :=
    fitsVarChar_append_uuid (by decide +kernel) claim.reward.id
  have hunreversed' : ∀ u ∈ db.ledger.transactions.rows, u.reversalOfId ≠ some t.id := by
    rw [hid]
    exact hunreversed
  have haccepted := exists_reverse_iff ht hposted hfits hunreversed' hfresh hkey hfitsKey
    fits_rewardReversalReference
  rw [← haccepted, hid]
  have hcases := onDepositReversed_cases ctx none db paymentIntentId
  generalize (onDepositReversed ctx none paymentIntentId).run db = result at hcases ⊢
  obtain ⟨answer, after⟩ := result
  constructor
  · rintro rfl
    cases hcases with
    | idle _ hunanswered _ => exact absurd rfl hunanswered
    | clawed claim' _ hclaim' reversed _ hreverse _ _ =>
        obtain rfl := Option.some.inj (hclaim.symm.trans hclaim')
        simp only [reverseReward, bind_eq_ok, Prod.exists] at hreverse
        obtain ⟨-, -, ref, ledger, hok, -⟩ := hreverse
        exact ⟨_, hok⟩
  · rintro ⟨⟨ref, ledger⟩, hok⟩
    have hreverse : reverseReward ctx none claim.reward claim.ledgerTransactionId db =
        .ok ((), { db with ledger := ledger }) := bind_of_eq_ok hok
    cases hcases with
    | idle _ _ hunposted => exact absurd hreverse (hunposted rfl rfl claim _ hclaim)
    | stranded claim' e hclaim' _ hreverse' hunmarked =>
        obtain ⟨marked, hmark⟩ := h.marks hclaim' hreverse' nofun
        rw [hunmarked] at hmark
        cases hmark
    | clawed claim' _ hclaim' reversed _ hreverse' _ hanswered => exact hanswered rfl

/-! ## Every run -/

/-- **When a clawback is atomic and repeatable.**  In every run without a call that is cut off between
the commit of the ledger and its own, rewards and their postings are reversed together, each posting
once; the next call keeps it so exactly when it is not cut off there either; and it reverses the
reward it finds exactly when no other reward was reversed before it, under the one reference that all
of them share. -/
theorem clawback_atomic_iff {start : Db}
    (h : Reaches ReversalCall.step Uninterrupted start db) (hstart : Standing start) :
    Atomic db ∧ (∀ call : ReversalCall, Atomic (call.step db) ↔ Uninterrupted db call) ∧
      ∀ ctx paymentIntentId claim, findClaim db paymentIntentId = some claim →
        (∀ u ∈ db.ledger.transactions.rows, u.id ≠ ctx.uuid 0) →
        (((onDepositReversed ctx none paymentIntentId).run db).1 = .ok true ↔
          ∀ u ∈ db.ledger.transactions.rows, u.reference ≠ rewardReversalReference) := by
  have hstanding : Standing db := h.invariant hstart fun db call hdb hcall ↦ hdb.step hcall
  refine ⟨hstanding.atomic, fun call ↦ ?_, fun ctx paymentIntentId claim hclaim hfresh ↦ ?_⟩
  · constructor
    · exact hstanding.uninterrupted_of_atomic
    · exact fun hcall ↦ (hstanding.step hcall).atomic
  · exact hstanding.answer_iff hclaim hfresh

/-! ### Two rewards -/

/-- Both friends of a referrer have deposited, and the referrer was rewarded for each. -/
def sampleRewarded : Db := (sampleAwards sampleCapped sampleBothDeposits).shared.db

theorem standing_sampleRewarded : Standing sampleRewarded := by
  decide +kernel

/-- The first friend's deposit is reversed. -/
def sampleFirstReversed : ReversalCall := ⟨sampleDraws 600, none, .ofNat 301⟩

/-- The same, but the process stops before the reward is marked. -/
def sampleCutOff : ReversalCall :=
  ⟨sampleDraws 600, some ⟨.updateReward, .plain "connection closed"⟩, .ofNat 301⟩

theorem clawback_atomic_iff_sample :
    Atomic (sampleFirstReversed.step sampleRewarded) ∧
      (sampleFirstReversed.step sampleRewarded).referrals.rewards.rows.map (·.status) =
        [.reversed, .released] := by
  have hrun : Reaches ReversalCall.step Uninterrupted sampleRewarded
      (sampleFirstReversed.step sampleRewarded) :=
    (Reaches.refl _).call sampleFirstReversed (by decide +kernel)
  exact ⟨(clawback_atomic_iff hrun standing_sampleRewarded).1, by decide +kernel⟩

/-- A call that is cut off after the commit of the ledger leaves a released reward whose posting is
reversed, and once one reward was clawed back no other can be. -/
theorem clawback_not_atomic :
    (¬ ∀ start db, Standing start → Reaches ReversalCall.step anyCall start db → Atomic db) ∧
      ¬ ∀ start db, Standing start → Reaches ReversalCall.step anyCall start db →
        ∀ ctx paymentIntentId claim, findClaim db paymentIntentId = some claim →
          (∀ u ∈ db.ledger.transactions.rows, u.id ≠ ctx.uuid 0) →
          ((onDepositReversed ctx none paymentIntentId).run db).1 = .ok true := by
  constructor
  · intro h
    have hatomic := h _ _ standing_sampleRewarded
      (reaches_foldl ReversalCall.step sampleRewarded [sampleCutOff])
    exact absurd hatomic (by decide +kernel)
  · intro h
    obtain ⟨claim, hclaim⟩ : ∃ claim, findClaim (sampleFirstReversed.step sampleRewarded)
        (.ofNat 302) = some claim := Option.isSome_iff_exists.mp (by decide +kernel)
    have hanswer := h _ _ standing_sampleRewarded
      (reaches_foldl ReversalCall.step sampleRewarded [sampleFirstReversed]) (sampleDraws 700)
      (.ofNat 302) claim hclaim (by decide +kernel)
    have hrefused : ((onDepositReversed (sampleDraws 700) none (.ofNat 302)).run
        (sampleFirstReversed.step sampleRewarded)).1.isOk = false := by decide +kernel
    have hok := congrArg Except.isOk hanswer
    exact absurd (hok.symm.trans hrefused) (by decide)

end AjoCloud.Referrals
