import AjoCloud.Ajo.Settlement
import AjoCloud.Ajo.Swaps
import AjoCloud.Ledger.Accounts
import AjoCloud.Lib.Run

/-!
# What the operations on a group do to its books

The books of a group are its schedules, its contributions and payouts, and its pool in the ledger.
Each operation is inverted once, into an `Effect`: a contribution was recorded, a payout made or
held, a swap executed, a status assigned, or the books were left alone.  Every invariant of a group
is then a case analysis on effects.
-/

namespace AjoCloud.Ajo

open Lib Ledger Payments

/-! ## Calls -/

/-- The statuses an administrator may give a contribution that is not going to be paid. -/
inductive WriteOff where
  | waived
  | cancelled

/-- The status that is written. -/
def WriteOff.status : WriteOff → ContributionScheduleStatus
  | .waived => .waived
  | .cancelled => .cancelled

/-- The row of a contribution that will not arrive is given its status. -/
def assignStatus (db : Db) (scheduleId : Uuid) (writeOff : WriteOff) : Db :=
  { db with
    contributionSchedules := db.contributionSchedules.modify (fun s ↦ s.id = scheduleId)
      (fun s ↦ { s with status := writeOff.status }) fun h ↦ h }

/-- A wallet settlement of an intent for a contribution; `confirm` chooses the target by the
intent's type. -/
def settleIntent (ctx : Ctx) (db : Db) (userId intentId : Uuid) (idempotencyKey : String) :
    Except ServiceError (PaymentIntent × Db) := do
  let intent ← orThrow (db.paymentIntents.find? fun i ↦ i.id = intentId ∧ i.userId = userId)
    (.notFound "Payment was not found")
  require (intent.targetType = ajoContributionTarget.type) (.notFound "Payment was not found")
  settleFromWallet ctx db ajoContributionTarget userId intentId idempotencyKey

/-- A call on an Ajo group, with the clock and the identifiers it is answered under. -/
inductive Call where
  | payContribution (ctx : Ctx) (userId groupId scheduleId : Uuid) (dto : PayContributionDto)
  | createIntent (ctx : Ctx) (userId : Uuid) (dto : CreateIntentDto) (idempotencyKey : String)
  | settleIntent (ctx : Ctx) (userId intentId : Uuid) (idempotencyKey : String)
  | executePayout (ctx : Ctx) (userId groupId payoutScheduleId : Uuid)
  | createSwap (ctx : Ctx) (userId groupId : Uuid) (dto : CreateSwapRequestDto)
  | approveSwap (ctx : Ctx) (userId groupId swapId : Uuid) (reason : Option String)
  | rejectSwap (ctx : Ctx) (userId groupId swapId : Uuid) (reason : Option String)
  | assignStatus (scheduleId : Uuid) (writeOff : WriteOff)

/-- The payout row a call names. -/
def Call.payoutRow : Call → Option Uuid
  | .executePayout _ _ _ payoutScheduleId => some payoutScheduleId
  | _ => none

/-- A call of the swap service. -/
def Call.isSwap : Call → Bool
  | .createSwap .. | .approveSwap .. | .rejectSwap .. => true
  | _ => false

/-- A decision that a contribution will not arrive. -/
def Call.isWriteOff : Call → Bool
  | .assignStatus .. => true
  | _ => false

/-- The database a call leaves. -/
def step (db : Db) : Call → Db
  | .payContribution ctx userId groupId scheduleId dto =>
      committed db (payContribution ctx db userId groupId scheduleId dto)
  | .createIntent ctx userId dto key =>
      committed db (create ctx db ajoContributionTarget userId dto key)
  | .settleIntent ctx userId intentId key => committed db (settleIntent ctx db userId intentId key)
  | .executePayout ctx userId groupId payoutScheduleId =>
      (executePayout ctx db userId groupId payoutScheduleId).2
  | .createSwap ctx userId groupId dto => committed db (createSwap ctx db userId groupId dto)
  | .approveSwap ctx userId groupId swapId reason =>
      committed db (approveSwap ctx db userId groupId swapId reason)
  | .rejectSwap ctx userId groupId swapId reason =>
      committed db (rejectSwap ctx db userId groupId swapId reason)
  | .assignStatus scheduleId writeOff => assignStatus db scheduleId writeOff

/-! ## Books -/

/-- The version of a group's schedule that a swap was executed on. -/
def executedSwaps (db : Db) : Set (Uuid × Nat) :=
  { v | ∃ w ∈ db.swapRequests.rows, w.status = .executed ∧
    (w.groupId, w.previousScheduleVersion) = v }

/-- The tables that record a group's schedules and money, and which versions of the schedule swaps
have replaced. -/
structure Books where
  ajoGroups : Table AjoGroup
  ajoCycles : Table AjoCycle
  contributionSchedules : Table ContributionSchedule
  payoutSchedules : Table PayoutSchedule
  contributions : Table Contribution
  payouts : Table Payout
  executedSwaps : Set (Uuid × Nat)

/-- The books in a database. -/
def books (db : Db) : Books where
  ajoGroups := db.ajoGroups
  ajoCycles := db.ajoCycles
  contributionSchedules := db.contributionSchedules
  payoutSchedules := db.payoutSchedules
  contributions := db.contributions
  payouts := db.payouts
  executedSwaps := executedSwaps db

/-- The balance of a group's pool. -/
def poolBalance (db : Db) (groupId : Uuid) : Int := db.ledger.codeBalance (poolAccountCode groupId)

/-! ## Keys and the rows behind them -/

/-- A ledger key that is derived from a row has that row behind it: a contribution's or a payout's
key is on a stored row, and an intent's key belongs to an intent that has been confirmed. -/
structure Backed (db : Db) (key : String) : Prop where
  contribution : ∀ s k, key = contributionIdempotencyKey s k →
    ∃ c ∈ db.contributions.rows, c.idempotencyKey = key
  payout : ∀ p, key = payoutIdempotencyKey p → ∃ o ∈ db.payouts.rows, o.idempotencyKey = key
  intent : ∀ i k, key = intentKey i k →
    ∃ x ∈ db.paymentIntents.rows, x.id = i ∧ x.status ≠ .requiresConfirmation

/-- Every key in the ledger is backed.  So a key found unused in its own table is unused in the
ledger, and a posting under it is never a replay. -/
def WellKeyed (db : Db) : Prop := ∀ t ∈ db.ledger.transactions.rows, Backed db t.idempotencyKey

/-- Rows that back keys are not taken away. -/
structure Keeps (db db' : Db) : Prop where
  contributions : ∀ c ∈ db.contributions.rows, c ∈ db'.contributions.rows
  payouts : ∀ p ∈ db.payouts.rows, p ∈ db'.payouts.rows
  intents : ∀ x ∈ db.paymentIntents.rows, x.status ≠ .requiresConfirmation →
    ∃ x' ∈ db'.paymentIntents.rows, x'.id = x.id ∧ x'.status ≠ .requiresConfirmation

theorem Backed.mono {db db' : Db} {key : String} (h : Backed db key) (hk : Keeps db db') :
    Backed db' key where
  contribution := by
    intro s k e
    obtain ⟨c, hc, hck⟩ := h.contribution s k e
    exact ⟨c, hk.contributions c hc, hck⟩
  payout := by
    intro p e
    obtain ⟨o, ho, hok⟩ := h.payout p e
    exact ⟨o, hk.payouts o ho, hok⟩
  intent := by
    intro i k e
    obtain ⟨x, hx, rfl, hst⟩ := h.intent i k e
    exact hk.intents x hx hst

/-- Rows that are only added to are kept. -/
theorem Keeps.of_append {db db' : Db} (cs : List Contribution) (ps : List Payout)
    (xs : List PaymentIntent) (hc : db'.contributions.rows = db.contributions.rows ++ cs)
    (hp : db'.payouts.rows = db.payouts.rows ++ ps)
    (hx : db'.paymentIntents.rows = db.paymentIntents.rows ++ xs) : Keeps db db' where
  contributions := fun _ h ↦ hc ▸ List.mem_append_left cs h
  payouts := fun _ h ↦ hp ▸ List.mem_append_left ps h
  intents := fun x h hst ↦ ⟨x, hx ▸ List.mem_append_left xs h, rfl, hst⟩

/-- What happened to the ledger's transactions: nothing, or one was stored under a backed key. -/
inductive Logged (db db' : Db) : Prop
  | /-- No transaction was stored. -/
    none (same : db'.ledger.transactions.rows = db.ledger.transactions.rows)
  | /-- One was. -/
    one (t : LedgerTransaction)
      (rows : db'.ledger.transactions.rows = db.ledger.transactions.rows ++ [t])
      (backed : Backed db' t.idempotencyKey)

theorem WellKeyed.of_logged {db db' : Db} (h : WellKeyed db) (hk : Keeps db db')
    (hl : Logged db db') : WellKeyed db' := by
  intro t ht
  cases hl with
  | none same =>
      rw [same] at ht
      exact (h t ht).mono hk
  | one u rows backed =>
      rw [rows, List.mem_append, List.mem_singleton] at ht
      rcases ht with ht | rfl
      · exact (h t ht).mono hk
      · exact backed

/-! ### Telling keys apart -/

theorem contributionIdempotencyKey_ne_intentKey (s i : Uuid) (k k' : String) :
    contributionIdempotencyKey s k ≠ intentKey i k' := by
  intro e
  exact append_ne_append 5 (by simp) (by simp) (by simp) _ _
    (String.append_assoc.symm.trans (e.trans String.append_assoc))

theorem payoutIdempotencyKey_ne_intentKey (p i : Uuid) (k : String) :
    payoutIdempotencyKey p ≠ intentKey i k := by
  intro e
  exact append_ne_append 5 (by simp) (by simp) (by simp) _ _ (e.trans String.append_assoc)

theorem backed_contributionKey {db : Db} {s : Uuid} {k : String} {c : Contribution}
    (hc : c ∈ db.contributions.rows) (hk : c.idempotencyKey = contributionIdempotencyKey s k) :
    Backed db (contributionIdempotencyKey s k) where
  contribution := fun _ _ _ ↦ ⟨c, hc, hk⟩
  payout := fun p e ↦ absurd e (contributionIdempotencyKey_ne_payout s p k)
  intent := fun i k' e ↦ absurd e (contributionIdempotencyKey_ne_intentKey s i k k')

theorem backed_payoutKey {db : Db} {p : Uuid} {o : Payout} (ho : o ∈ db.payouts.rows)
    (hk : o.idempotencyKey = payoutIdempotencyKey p) : Backed db (payoutIdempotencyKey p) where
  contribution := fun s k e ↦ absurd e.symm (contributionIdempotencyKey_ne_payout s p k)
  payout := fun _ _ ↦ ⟨o, ho, hk⟩
  intent := fun i k e ↦ absurd e (payoutIdempotencyKey_ne_intentKey p i k)

theorem backed_intentKey {db : Db} {x : PaymentIntent} {k : String}
    (hx : x ∈ db.paymentIntents.rows) (hst : x.status ≠ .requiresConfirmation) :
    Backed db (intentKey x.id k) where
  contribution := fun s k' e ↦ absurd e.symm (contributionIdempotencyKey_ne_intentKey s x.id k' k)
  payout := fun p e ↦ absurd e.symm (payoutIdempotencyKey_ne_intentKey p x.id k)
  intent := fun _ _ e ↦ ⟨x, hx, intentKey_inj e, hst⟩

end AjoCloud.Ajo
