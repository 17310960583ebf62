import AjoCloud.Ajo.Turns

/-!
# Which rows are paid

Every payout belongs to a paid row, and a paid row stays paid.  A turn is paid once as long as no
payout is asked for on a row whose cycle or slot another row has been paid for; nothing in the code
makes sure of that, and after a swap the rows of the old version can still be paid.
-/

namespace AjoCloud.Ajo

open Lib ServiceError Ledger Payments

variable {db db' : Db} {call : Call} {g : Uuid}

/-! ## Paid rows -/

/-- A row that is paid stays paid. -/
theorem Effect.paid_stays (h : Effect call db db') {r : PayoutSchedule}
    (hr : r ∈ db.payoutSchedules.rows) (hpaid : r.status = .paid) :
    ∃ r' ∈ db'.payoutSchedules.rows, SameTurn r r' ∧ r'.status = .paid := by
  cases h with
  | idle hbooks _ =>
      have hrows : db'.payoutSchedules = db.payoutSchedules := congrArg Books.payoutSchedules hbooks
      exact ⟨r, hrows ▸ hr, .refl r, hpaid⟩
  | contributed s amount c now h =>
      have hrows : db'.payoutSchedules = db.payoutSchedules :=
        congrArg Books.payoutSchedules h.books
      exact ⟨r, hrows ▸ hr, .refl r, hpaid⟩
  | paidOut r₀ p h _ =>
      by_cases hid : r.id = r₀.id
      · exact ⟨markPaid r₀ r, h.mem_rows.mpr (.inr ⟨r, hr, hid, rfl⟩),
          ⟨rfl, rfl, rfl, rfl, rfl, rfl⟩, rfl⟩
      · exact ⟨r, h.mem_rows.mpr (.inl ⟨hr, hid⟩), .refl r, hpaid⟩
  | held id h executable =>
      subst h
      -- A hold is only written on a row that can still be paid.
      have hid : r.id ≠ id := by
        intro e
        have hexec := executable r hr e
        rw [hpaid] at hexec
        cases hexec
      exact ⟨r, mem_holdPayout.mpr (.inl ⟨hr, hid⟩), .refl r, hpaid⟩
  | swapped w ctx h _ => exact ⟨r, h.keeps_row hr, .refl r, hpaid⟩
  | assigned id writeOff h _ =>
      subst h
      exact ⟨r, hr, .refl r, hpaid⟩

/-- A row that is paid was paid before, or is the one the call names. -/
theorem Effect.paid_before (h : Effect call db db') {r' : PayoutSchedule}
    (hr' : r' ∈ db'.payoutSchedules.rows) (hpaid : r'.status = .paid) :
    ∃ r ∈ db.payoutSchedules.rows, SameTurn r r' ∧
      (r.status = .paid ∨ call.payoutRow = some r.id) := by
  cases h with
  | idle hbooks _ =>
      have hrows : db'.payoutSchedules = db.payoutSchedules := congrArg Books.payoutSchedules hbooks
      exact ⟨r', hrows ▸ hr', .refl r', .inl hpaid⟩
  | contributed s amount c now h =>
      have hrows : db'.payoutSchedules = db.payoutSchedules :=
        congrArg Books.payoutSchedules h.books
      exact ⟨r', hrows ▸ hr', .refl r', .inl hpaid⟩
  | paidOut r₀ p h named =>
      rcases h.mem_rows.mp hr' with ⟨hr, -⟩ | ⟨r, hr, hid, rfl⟩
      · exact ⟨r', hr, .refl r', .inl hpaid⟩
      · refine ⟨r, hr, ⟨rfl, rfl, rfl, rfl, rfl, rfl⟩, .inr ?_⟩
        rw [named, hid]
  | held id h executable =>
      subst h
      rcases mem_holdPayout.mp hr' with ⟨hr, -⟩ | ⟨r, hr, -, rfl⟩
      · exact ⟨r', hr, .refl r', .inl hpaid⟩
      · cases hpaid
  | swapped w ctx h _ =>
      rcases h.mem_rows hr' with hr | ⟨r, -, hcopy⟩
      · exact ⟨r', hr, .refl r', .inl hpaid⟩
      · rw [hcopy.status] at hpaid
        cases hpaid
  | assigned id writeOff h _ =>
      subst h
      exact ⟨r', hr', .refl r', .inl hpaid⟩

/-- What happened to the payouts: nothing, or one was made. -/
theorem Effect.payouts (h : Effect call db db') :
    db'.payouts = db.payouts ∨ ∃ r p, PaidOut db db' r p ∧ call.payoutRow = some r.id := by
  cases h with
  | idle hbooks _ => exact .inl (congrArg Books.payouts hbooks)
  | contributed s amount c now h => exact .inl (congrArg Books.payouts h.books)
  | paidOut r p h named => exact .inr ⟨r, p, h, named⟩
  | held id h _ => exact .inl (h ▸ rfl)
  | swapped w ctx h _ => exact .inl (congrArg Books.payouts h.books)
  | assigned id writeOff h _ => exact .inl (h ▸ rfl)

/-- The payout `p` was made for the row `r`. -/
structure MadeFor (r : PayoutSchedule) (p : Payout) : Prop where
  scheduleId : p.scheduleId = r.id
  groupId : p.groupId = r.groupId
  slotId : p.slotId = r.slotId
  amountMinor : p.amountMinor = r.amountDueMinor
  idempotencyKey : p.idempotencyKey = payoutIdempotencyKey r.id

theorem MadeFor.congr {r r' : PayoutSchedule} {p : Payout} (h : MadeFor r p)
    (hs : SameTurn r r') : MadeFor r' p :=
  ⟨h.scheduleId.trans hs.id.symm, h.groupId.trans hs.groupId.symm, h.slotId.trans hs.slotId.symm,
    h.amountMinor.trans hs.amountDueMinor.symm,
    h.idempotencyKey.trans (congrArg payoutIdempotencyKey hs.id.symm)⟩

/-- Every payout of the group was made for a row that is paid. -/
def PaidRows (db : Db) (g : Uuid) : Prop :=
  ∀ p ∈ db.payouts.rows, p.groupId = g →
    ∃ r ∈ db.payoutSchedules.rows, r.status = .paid ∧ MadeFor r p

theorem PaidRows.step (h : PaidRows db g) (he : Effect call db db') : PaidRows db' g := by
  -- Rows of earlier payouts stay paid.
  have hold : ∀ p ∈ db.payouts.rows, p.groupId = g →
      ∃ r ∈ db'.payoutSchedules.rows, r.status = .paid ∧ MadeFor r p := by
    intro p hp hg
    obtain ⟨r, hr, hpaid, hmade⟩ := h p hp hg
    obtain ⟨r', hr', hsame, hpaid'⟩ := he.paid_stays hr hpaid
    exact ⟨r', hr', hpaid', hmade.congr hsame⟩
  intro p hp hg
  rcases he.payouts with hsame | ⟨r, q, hout, -⟩
  · exact hold p (hsame ▸ hp) hg
  · rw [hout.payouts, List.mem_append, List.mem_singleton] at hp
    rcases hp with hp | rfl
    · exact hold p hp hg
    · obtain ⟨hgroup, hschedule, hslot, hamount, -, hkey⟩ := hout.row
      exact ⟨markPaid r r, hout.mem_rows.mpr (.inr ⟨r, hout.mem, rfl, rfl⟩), rfl, hschedule,
        hgroup, hslot, hamount, hkey⟩

/-! ## One payout per turn -/

/-- No two paid rows of the group share a cycle or a slot. -/
def OneTurn (db : Db) (g : Uuid) : Prop :=
  ∀ r ∈ db.payoutSchedules.rows, ∀ q ∈ db.payoutSchedules.rows, r.groupId = g → q.groupId = g →
    r.status = .paid → q.status = .paid → r.cycleId = q.cycleId ∨ r.slotId = q.slotId → r = q

/-- If the call asks for a payout, then no other row of the group, under any version, has been paid
for the same cycle or to the same slot. -/
def UnpaidTurn (db : Db) (call : Call) : Prop :=
  ∀ r ∈ db.payoutSchedules.rows, call.payoutRow = some r.id →
    ∀ q ∈ db.payoutSchedules.rows, q.groupId = r.groupId → q.id ≠ r.id →
      q.cycleId = r.cycleId ∨ q.slotId = r.slotId → q.status ≠ .paid

instance (db : Db) (call : Call) : Decidable (UnpaidTurn db call) := by
  unfold UnpaidTurn
  infer_instance

theorem OneTurn.step (h : OneTurn db g) (he : Effect call db db') (hcall : UnpaidTurn db call) :
    OneTurn db' g := by
  intro r' hr' q' hq' hrg hqg hrpaid hqpaid hturn
  obtain ⟨r, hr, hsr, hrwas⟩ := he.paid_before hr' hrpaid
  obtain ⟨q, hq, hsq, hqwas⟩ := he.paid_before hq' hqpaid
  rw [hsr.groupId] at hrg
  rw [hsq.groupId] at hqg
  rw [hsr.cycleId, hsq.cycleId, hsr.slotId, hsq.slotId] at hturn
  -- A row other than the one that is named is not paid when it shares the turn.
  have hid : r.id = q.id := by
    rcases hrwas with hrwas | hrnamed
    · rcases hqwas with hqwas | hqnamed
      · rw [h r hr q hq hrg hqg hrwas hqwas hturn]
      · by_contra hne
        exact hcall q hq hqnamed r hr (hrg.trans hqg.symm) hne hturn hrwas
    · rcases hqwas with hqwas | hqnamed
      · by_contra hne
        exact hcall r hr hrnamed q hq (hqg.trans hrg.symm) (Ne.symm hne)
          (hturn.imp Eq.symm Eq.symm) hqwas
      · exact Option.some.inj (hrnamed.symm.trans hqnamed)
  exact row_eq_of_id hr' hq' (by rw [hsr.id, hsq.id, hid])

/-- The cycle a payout was made for. -/
def payoutCycle (db : Db) (p : Payout) : Option Uuid :=
  (db.payoutSchedules.find? fun r ↦ r.id = p.scheduleId).map (·.cycleId)

theorem MadeFor.payoutCycle {r : PayoutSchedule} {p : Payout} (h : MadeFor r p)
    (hr : r ∈ db.payoutSchedules.rows) : payoutCycle db p = some r.cycleId := by
  rw [Ajo.payoutCycle, db.payoutSchedules.find?_eq_some_of_mem hr (decide_eq_true h.scheduleId.symm)
    fun x _ hx ↦ .inl (.inl ((of_decide_eq_true hx).trans h.scheduleId))]
  rfl

/-- At most one payout of the group has succeeded for each cycle, and at most one to each slot. -/
def OnePayoutPerTurn (db : Db) (g : Uuid) : Prop :=
  ∀ p ∈ db.payouts.rows, ∀ q ∈ db.payouts.rows, p.groupId = g → q.groupId = g →
    p.status = .succeeded → q.status = .succeeded →
    payoutCycle db p = payoutCycle db q ∨ p.slotId = q.slotId → p = q

instance (db : Db) (g : Uuid) : Decidable (OnePayoutPerTurn db g) := by
  refine decidable_of_iff (∀ p ∈ db.payouts.rows, ∀ q ∈ db.payouts.rows, p.groupId = g ∧ q.groupId = g ∧
    p.status = .succeeded ∧ q.status = .succeeded ∧
      (payoutCycle db p = payoutCycle db q ∨ p.slotId = q.slotId) → p = q) ?_
  simp only [OnePayoutPerTurn, and_imp]

theorem onePayoutPerTurn_of_paidRows (hrows : PaidRows db g) (hone : OneTurn db g) :
    OnePayoutPerTurn db g := by
  intro p hp q hq hpg hqg _ _ hturn
  obtain ⟨r, hr, hrpaid, hrp⟩ := hrows p hp hpg
  obtain ⟨s, hs, hspaid, hsq⟩ := hrows q hq hqg
  rw [hrp.payoutCycle hr, hsq.payoutCycle hs, hrp.slotId, hsq.slotId, Option.some.injEq] at hturn
  have heq := hone r hr s hs (hrp.groupId.symm.trans hpg) (hsq.groupId.symm.trans hqg) hrpaid
    hspaid hturn
  -- The key of a payout is made from its row.
  have hkey : p.idempotencyKey = q.idempotencyKey := by
    rw [hrp.idempotencyKey, hsq.idempotencyKey, heq]
  exact db.payouts.eq_of_clash hp hq (.inr ⟨rfl, congrArg some hkey⟩)

/-- What holds of a locked group, whatever the calls. -/
structure Followed (db : Db) (g : Uuid) : Prop where
  keyed : WellKeyed db
  versioned : ∃ first current, Versioned db g first current
  paidRows : PaidRows db g

theorem LockedGroup.followed (h : LockedGroup db g) : Followed db g := by
  obtain ⟨first, hversioned⟩ := h.versioned
  exact ⟨h.keyed, ⟨first, first, hversioned⟩, fun p hp hg ↦ absurd hg (h.payouts p hp)⟩

theorem Followed.step (h : Followed db g) (call : Call) : Followed (step db call) g := by
  have heffect := (step_outcome h.keyed call).effect
  obtain ⟨first, current, hversioned⟩ := h.versioned
  obtain ⟨current', hversioned'⟩ := hversioned.step heffect.turns
  exact ⟨wellKeyed_step h.keyed call, ⟨first, current', hversioned'⟩, h.paidRows.step heffect⟩

theorem LockedGroup.followed_of_reaches {db₀ : Db} {ok : Db → Call → Prop}
    (h₀ : LockedGroup db₀ g) (h : Reaches step ok db₀ db) : Followed db g :=
  h.invariant (I := fun db ↦ Followed db g) h₀.followed
    fun _ call hfollowed _ ↦ hfollowed.step call

/-- As long as no payout is made on a turn that another row has been paid for, a turn is paid at most
once.  A call without effect need not meet the condition. -/
theorem one_payout_per_turn {db₀ : Db} (h₀ : LockedGroup db₀ g)
    (h : Reaches step (Effective step UnpaidTurn) db₀ db) : OnePayoutPerTurn db g := by
  have hone₀ : OneTurn db₀ g := by
    intro r hr q _ hg _ hpaid
    rw [(h₀.payoutSchedules r hr hg).1] at hpaid
    cases hpaid
  have hinv : Followed db g ∧ OneTurn db g := by
    refine h.of_effective.invariant (I := fun db ↦ Followed db g ∧ OneTurn db g)
      ⟨h₀.followed, hone₀⟩ ?_
    rintro s call ⟨hfollowed, hone⟩ hcall
    exact ⟨hfollowed.step call, hone.step (step_outcome hfollowed.keyed call).effect hcall⟩
  exact onePayoutPerTurn_of_paidRows hinv.1.paidRows hinv.2

/-- Everyone has paid for both rounds. -/
def sampleCollected : Db := samplePayments.foldl step sampleGroup

/-- Each round is paid out to its slot. -/
theorem one_payout_per_turn_sample :
    OnePayoutPerTurn (step (step sampleCollected (samplePayOut 6 71)) (samplePayOut 7 72))
        (.ofNat 30) ∧
      (step (step sampleCollected (samplePayOut 6 71)) (samplePayOut 7 72)).payouts.rows.length
        = 2 := by
  have hcollected : Reaches step UnpaidTurn sampleGroup sampleCollected := by
    refine reaches_foldl_of sampleGroup fun k hk s r _ hrow ↦ ?_
    have hnone : k.payoutRow = none := by
      have hall : ∀ k ∈ samplePayments, k.payoutRow = none := by simp [samplePayments, samplePay,
        Call.payoutRow]
      exact hall k hk
    rw [hnone] at hrow
    cases hrow
  refine ⟨one_payout_per_turn sampleGroup_locked (Reaches.effective ?_), by decide +kernel⟩
  exact (hcollected.call _ (by decide +kernel)).call _ (by decide +kernel)

/-- The swap is executed after the first round has been paid out, and the round is paid again. -/
def sampleTwice : List Call :=
  samplePayments ++ [sampleSwap, samplePayOut 6 71, sampleApproval 7 1, sampleApproval 8 2,
    samplePayOut 9 8010]

/-- A swap opens a new row for a cycle that has been paid, and the cycle is paid twice. -/
theorem swap_pays_cycle_twice :
    ¬ ∀ (db₀ : Db) (g : Uuid), LockedGroup db₀ g →
      ∀ db, Reaches step (fun _ call ↦ call.isWriteOff = false) db₀ db →
        OnePayoutPerTurn db g := by
  intro h
  have hrun : Reaches step (fun _ call ↦ call.isWriteOff = false) sampleGroup
      (sampleTwice.foldl step sampleGroup) := by
    refine reaches_foldl_of sampleGroup fun k hk _ ↦ ?_
    have hall : ∀ k ∈ sampleTwice, k.isWriteOff = false := by
      simp [sampleTwice, samplePayments, samplePay, sampleSwap, samplePayOut, sampleApproval,
        Call.isWriteOff]
    exact hall k hk
  exact absurd (h sampleGroup (.ofNat 30) sampleGroup_locked _ hrun) (by decide +kernel)

/-! ## Whom a payout goes to -/

/-- The transaction `t` credits the wallet of the member who holds the slot that the version of the
schedule in force assigns to the cycle. -/
def PaysTurnHolder (db db' : Db) (group : AjoGroup) (cycleId : Uuid) (t : LedgerTransaction) :
    Prop :=
  ∃ q ∈ versionRows db group.id group.scheduleVersion, q.cycleId = cycleId ∧
    (∀ x ∈ versionRows db group.id group.scheduleVersion, x.cycleId = cycleId → x = q) ∧
    ∃ slot ∈ db.ajoSlots.rows, slot.id = q.slotId ∧
      ∃ member ∈ db.ajoGroupMembers.rows, member.id = slot.memberId ∧
        ∃ account, IsWalletAccount db' member.userId q.currency account ∧
          (t.entries.filter fun e ↦ e.direction = .credit).map (·.accountId) = [account.id]

/-- A payout that stored the transaction `t` credited the member who holds the row's slot. -/
theorem PayoutSettled.credited {ctx : Ctx} {userId : Uuid} {r : PayoutSchedule} {slot : AjoSlot}
    {p : Payout} {recipient : AjoGroupMember} {wallet : FinancialAccount} {pool : Uuid}
    {opened : Db} {posting : LedgerReference} {ledger : Ledger} {t : LedgerTransaction}
    (h : PayoutSettled ctx db userId r slot p db' recipient wallet pool opened posting ledger)
    (ht : db'.ledger.transactions.rows = db.ledger.transactions.rows ++ [t]) :
    IsWalletAccount db' recipient.userId r.currency wallet ∧
      (t.entries.filter fun e ↦ e.direction = .credit).map (·.accountId) = [wallet.id] := by
  obtain ⟨hopenedDb, hopened, -⟩ := poolAccountWithin_eq_ok h.credit
  have hw := memberWalletAccount_eq_ok h.account
  have hledger : db'.ledger = ledger := by rw [h.after]
  rw [hledger] at ht
  cases (postWithin_eq_ok h.post).2 with
  | replayed _ _ _ _ same =>
      rw [same, hopened.transactions] at ht
      simp at ht
  | appended _ created _ =>
      obtain ⟨-, -, -, haccounts, hrows⟩ := createTransaction_eq_ok created
      rw [hopened.transactions, ht, List.append_cancel_left_eq, List.singleton_inj] at hrows
      refine ⟨⟨?_, hw.purpose, hw.currency_eq, hw.active, ?_⟩, ?_⟩
      · rw [hledger, haccounts]
        exact hw.mem
      · rw [h.after]
        exact hw.wallet
      · rw [hrows]
        simp [postedTransaction, payoutPosting, numberEntries]

/-- A row is of the version in force exactly when no swap has been executed on its version or a
later one. -/
theorem Versioned.current_iff {first current : Nat} (h : Versioned db g first current)
    {r : PayoutSchedule} (hr : r ∈ db.payoutSchedules.rows) (hg : r.groupId = g) :
    r.scheduleVersion = current ↔
      ∀ w ∈ db.swapRequests.rows, w.groupId = g → w.status = .executed →
        w.previousScheduleVersion < r.scheduleVersion := by
  obtain ⟨hfirst, hle⟩ := h.rows r hr hg
  constructor
  · intro heq w hw hwg hst
    rw [heq]
    exact ((h.executed w.previousScheduleVersion).mp ⟨w, hw, hst, by rw [hwg]⟩).2
  · intro hall
    by_contra hne
    obtain ⟨w, hw, hst, heq⟩ := (h.executed r.scheduleVersion).mpr
      ⟨hfirst, lt_of_le_of_ne hle hne⟩
    rw [Prod.mk.injEq] at heq
    have hlt := hall w hw heq.1 hst
    rw [heq.2] at hlt
    exact absurd hlt (lt_irrefl _)

/-- A payout goes to the holder of the turn under the version in force exactly when no swap has
been executed on the row's version or a later one. -/
theorem payout_to_turn_holder_iff {db₀ : Db} (h₀ : LockedGroup db₀ g)
    (h : Reaches step anyCall db₀ db) {ctx : Ctx} {userId : Uuid} {r : PayoutSchedule}
    (hr : r ∈ db.payoutSchedules.rows) {group : AjoGroup} (hgroup : group ∈ db.ajoGroups.rows)
    (hid : group.id = g) {t : LedgerTransaction}
    (hposted : (step db (.executePayout ctx userId g r.id)).ledger.transactions.rows =
      db.ledger.transactions.rows ++ [t]) :
    r.scheduleVersion = group.scheduleVersion ∧
        PaysTurnHolder db (step db (.executePayout ctx userId g r.id)) group r.cycleId t ↔
      ∀ w ∈ db.swapRequests.rows, w.groupId = g → w.status = .executed →
        w.previousScheduleVersion < r.scheduleVersion := by
  obtain ⟨first, current, hversioned⟩ := (h₀.followed_of_reaches h).versioned
  have hcurrent : group.scheduleVersion = current := by
    obtain ⟨row, hrow, hrowid, hversion⟩ := hversioned.group
    rw [db.ajoGroups.eq_of_clash hgroup hrow (.inl (hid.trans hrowid.symm)), hversion]
  cases executePayout_cases ctx db userId g r.id with
  | nothing same =>
      rw [step, same] at hposted
      simp at hposted
  | held hold _ =>
      rw [step, hold] at hposted
      simp [holdPayout] at hposted
  | paid r' slot p hr' hrid hrg hslot hunused hpay =>
      have hrr := row_eq_of_id hr' hr hrid
      subst hrr
      obtain ⟨recipient, wallet, pool, opened, posting, ledger, hsettled⟩ := payOut_eq_ok hpay
      obtain ⟨hwallet, hcredits⟩ := hsettled.credited hposted
      rw [hcurrent, ← hversioned.current_iff hr hrg, and_iff_left_iff_imp]
      intro hversion
      have hmem : r' ∈ versionRows db group.id group.scheduleVersion :=
        mem_versionRows.mpr ⟨hr, hrg.trans hid.symm, hversion.trans hcurrent.symm⟩
      have hslotId : slot.id = r'.slotId := by simpa using Table.prop_of_find? hslot
      have hholder : recipient.id = slot.memberId := by
        simpa using Table.prop_of_find? hsettled.holder
      refine ⟨r', hmem, rfl, ?_, slot, Table.mem_of_find? hslot, hslotId, recipient,
        Table.mem_of_find? hsettled.holder, hholder, wallet, hwallet, hcredits⟩
      intro x hx hcycle
      obtain ⟨hx, hxg, hxv⟩ := mem_versionRows.mp hx
      exact hversioned.turns x hx r' hr (hxg.trans hid) hrg
        (hxv.trans (hcurrent.trans hversion.symm)) hcycle

/-- The transaction of the first round's payout under the first version. -/
def samplePosted : LedgerTransaction :=
  postedTransaction (.ofNat 9000)
    (payoutPosting (sampleCtx 9) (.ofNat 1) (.ofNat 30) (samplePayout 1) (.ofNat 1001) (.ofNat 11))

theorem payout_to_turn_holder_sample :
    PaysTurnHolder sampleCollected (step sampleCollected (samplePayOut 9 71))
      sampleFriends (.ofNat 51) samplePosted :=
  ((payout_to_turn_holder_iff (r := samplePayout 1) sampleGroup_locked
    (reaches_foldl step sampleGroup samplePayments) (by decide +kernel) (by decide +kernel) rfl
    (by decide +kernel)).mpr (by decide +kernel)).2

/-- The group after the swap was executed; the row of the first version still stands. -/
def sampleExchanged : Db :=
  (samplePayments ++ [sampleSwap, sampleApproval 7 1, sampleApproval 8 2]).foldl step sampleGroup

/-- Asked for the row of the old version, `executePayout` pays the slot that gave up its turn. -/
theorem payout_to_former_holder :
    ¬ ∀ (db₀ : Db) (g : Uuid), LockedGroup db₀ g → ∀ db, Reaches step anyCall db₀ db →
      ∀ (ctx : Ctx) (userId : Uuid) (t : LedgerTransaction), ∀ r ∈ db.payoutSchedules.rows,
      ∀ group ∈ db.ajoGroups.rows, group.id = g →
      (step db (.executePayout ctx userId g r.id)).ledger.transactions.rows =
        db.ledger.transactions.rows ++ [t] →
      r.scheduleVersion = group.scheduleVersion ∧
        PaysTurnHolder db (step db (.executePayout ctx userId g r.id)) group r.cycleId t := by
  intro h
  have hversion := (h sampleGroup (.ofNat 30) sampleGroup_locked sampleExchanged
    (reaches_foldl step sampleGroup _) (sampleCtx 9) (.ofNat 1) samplePosted (samplePayout 1)
    (by decide +kernel) { sampleFriends with scheduleVersion := 2 } (by decide +kernel) rfl
    (by decide +kernel)).1
  exact absurd hversion (by decide)

/-! ## What a swap leaves of the schedule -/

/-- The version that the swap put into force differs from the one before in the two slots only. -/
def OnlyExchanges (db db' : Db) (w : SwapRequest) : Prop :=
  (∃ group ∈ db'.ajoGroups.rows, group.id = w.groupId ∧
    group.scheduleVersion = w.previousScheduleVersion + 1) ∧
  ∀ r ∈ versionRows db w.groupId w.previousScheduleVersion,
    ∃ r' ∈ versionRows db' w.groupId (w.previousScheduleVersion + 1), r'.cycleId = r.cycleId ∧
      (∀ x ∈ versionRows db' w.groupId (w.previousScheduleVersion + 1), x.cycleId = r.cycleId →
        x = r') ∧
      r'.dueAt = r.dueAt ∧ r'.amountDueMinor = r.amountDueMinor ∧
      r'.amountPaidMinor = r.amountPaidMinor ∧ r'.status = r.status ∧
      r'.slotId = exchange w.fromSlotId w.toSlotId r.slotId

/-- No payout of the two slots has started under the version in force. -/
def NoPayoutStarted (db : Db) (w : SwapRequest) : Prop :=
  ∀ r ∈ versionRows db w.groupId w.previousScheduleVersion,
    r.slotId = w.fromSlotId ∨ r.slotId = w.toSlotId → isProhibitedPayout r.status = false

instance (db : Db) (w : SwapRequest) : Decidable (NoPayoutStarted db w) := by
  unfold NoPayoutStarted
  infer_instance

/-- The row of the new version for a cycle of the old one. -/
theorem Versioned.exists_copy {first current : Nat} {w : SwapRequest} {ctx : Ctx}
    (h : Versioned db g first current) (hs : Swapped db db' w ctx) (hw : w.groupId = g)
    {r : PayoutSchedule} (hr : r ∈ versionRows db g w.previousScheduleVersion) :
    ∃ r' ∈ versionRows db' g (w.previousScheduleVersion + 1), Copies w r r' ∧
      ∀ x ∈ versionRows db' g (w.previousScheduleVersion + 1), x.cycleId = r.cycleId → x = r' := by
  have hrg := (mem_versionRows.mp hr).2.1
  obtain ⟨r', hr', hcopy⟩ := hs.exists_copy (hw ▸ hr)
  refine ⟨r', mem_versionRows.mpr ⟨hr', hcopy.groupId.trans hrg, hcopy.scheduleVersion⟩, hcopy, ?_⟩
  intro x hx hcycle
  obtain ⟨hx, hxg, hxv⟩ := mem_versionRows.mp hx
  exact (h.of_swapped_self hs hw).turns x hx r' hr' hxg (hcopy.groupId.trans hrg)
    (hxv.trans hcopy.scheduleVersion.symm) (hcycle.trans hcopy.cycleId.symm)

/-- An approval that fails changes nothing; one that executes the swap does no more than exchange
the slots exactly when every row of the version in force is pending with nothing paid. -/
theorem swap_only_exchanges_iff {db₀ : Db} (h₀ : LockedGroup db₀ g)
    (h : Reaches step anyCall db₀ db) (ctx : Ctx) (userId swapId : Uuid)
    (reason : Option String) :
    (∀ e, approveSwap ctx db userId g swapId reason = .error e →
      step db (.approveSwap ctx userId g swapId reason) = db) ∧
    ∀ w db', approveSwap ctx db userId g swapId reason = .ok (w, db') → w.status = .executed →
      (OnlyExchanges db db' w ∧ NoPayoutStarted db w ↔
        ∀ r ∈ versionRows db g w.previousScheduleVersion,
          r.status = .pending ∧ r.amountPaidMinor = 0) := by
  refine ⟨fun e herror ↦ by rw [step, herror]; rfl, ?_⟩
  intro w db' hok hst
  obtain ⟨first, current, hversioned⟩ := (h₀.followed_of_reaches h).versioned
  rcases approveSwap_eq_ok hok with ⟨hpending, -⟩ | ⟨stored, -, hgroup, hexec⟩
  · rw [hpending] at hst
    cases hst
  · obtain ⟨group, hrow, hrowid, hversion⟩ := (hversioned.of_swapped_self hexec.swapped hgroup).group
    have hprev := hversioned.current_eq hexec.swapped hgroup
    rw [hexec.answer]
    constructor
    · rintro ⟨⟨-, hrows⟩, -⟩ r hr
      -- The row of the new version is pending and unpaid, and the old one is to agree with it.
      obtain ⟨r', hr', hcycle, -, -, -, hpaid, hstatus, -⟩ := hrows r (by rwa [hgroup])
      obtain ⟨x, hx, hcopy, hunique⟩ := hversioned.exists_copy hexec.swapped hgroup hr
      rw [hunique r' (hgroup ▸ hr') hcycle] at hpaid hstatus
      exact ⟨hstatus.symm.trans hcopy.status, hpaid.symm.trans hcopy.amountPaidMinor⟩
    · intro hall
      refine ⟨⟨⟨group, hrow, hrowid.trans hgroup.symm, ?_⟩, ?_⟩, ?_⟩
      · rw [hversion, ← hprev]
      · intro r hr
        obtain ⟨hpending, hunpaid⟩ := hall r (hgroup ▸ hr)
        obtain ⟨r', hr', hcopy, hunique⟩ := hversioned.exists_copy hexec.swapped hgroup (hgroup ▸ hr)
        rw [← hgroup] at hr' hunique
        exact ⟨r', hr', hcopy.cycleId, hunique, hcopy.dueAt, hcopy.amountDueMinor,
          hcopy.amountPaidMinor.trans hunpaid.symm, hcopy.status.trans hpending.symm, hcopy.slotId⟩
      · intro r hr _
        rw [(hall r (hgroup ▸ hr)).1]
        rfl

/-- The swap, as its last approval answers. -/
def sampleExecuted : SwapRequest where
  id := .ofNat 5000
  groupId := .ofNat 30
  requestedByMemberId := .ofNat 31
  initiatedByUserId := .ofNat 1
  initiatorType := .administrator
  fromSlotId := .ofNat 41
  toSlotId := .ofNat 42
  originalFromPosition := 1
  originalToPosition := 2
  proposedFromPosition := 2
  proposedToPosition := 1
  status := .executed
  reason := none
  previousScheduleVersion := 1
  scheduleVersion := 1
  resultingScheduleVersion := some 2
  feeAssessmentId := none
  expiresAt := some (5000 + 72 * 60 * 60000)

/-- The swap awaits its last approval, and nothing has been paid out. -/
def sampleApproved : Db := [sampleSwap, sampleApproval 7 1].foldl step sampleGroup

theorem swap_only_exchanges_sample :
    OnlyExchanges sampleApproved (step sampleApproved (sampleApproval 8 2)) sampleExecuted ∧
      NoPayoutStarted sampleApproved sampleExecuted :=
  ((swap_only_exchanges_iff sampleGroup_locked
    (reaches_foldl step sampleGroup [sampleSwap, sampleApproval 7 1]) (sampleCtx 8) (.ofNat 2)
    (.ofNat 5000) none).2 sampleExecuted _ (eq_ok_committed sampleApproved (by decide +kernel))
    rfl).mpr (by decide +kernel)

/-- The first round is paid out while the swap awaits its last approval. -/
def samplePaidMeanwhile : Db :=
  (samplePayments ++ [sampleSwap, samplePayOut 6 71, sampleApproval 7 1]).foldl step sampleGroup

/-- The last approval executes the swap although the payout of one of its slots has been made. -/
theorem swap_forgets_payout :
    ¬ ∀ (db₀ : Db) (g : Uuid), LockedGroup db₀ g → ∀ db, Reaches step anyCall db₀ db →
      ∀ (ctx : Ctx) (userId swapId : Uuid) (reason : Option String) (w : SwapRequest) (db' : Db),
      approveSwap ctx db userId g swapId reason = .ok (w, db') → w.status = .executed →
      OnlyExchanges db db' w ∧ NoPayoutStarted db w := by
  intro h
  have hstarted := (h sampleGroup (.ofNat 30) sampleGroup_locked samplePaidMeanwhile
    (reaches_foldl step sampleGroup _) (sampleCtx 8) (.ofNat 2) (.ofNat 5000) none sampleExecuted _
    (eq_ok_committed samplePaidMeanwhile (by decide +kernel)) rfl).2
  exact absurd hstarted (by decide +kernel)

end AjoCloud.Ajo
