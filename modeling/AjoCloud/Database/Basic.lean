import AjoCloud.Ledger.Posting
import AjoCloud.Database.Ajo
import AjoCloud.Database.Payments
import AjoCloud.Database.People
import AjoCloud.Database.Products

/-!
# The database

One record with all tables.  A request is a function from the database it finds to the database
it leaves, or to an error, in which case nothing is written.
-/

namespace AjoCloud

open Lib

section Statements

variable {ρ : Type} [Schema ρ]

/-- `create`. -/
def insertRow (t : Table ρ) (row : ρ) : Except ServiceError (Table ρ) :=
  orThrow (t.insert row) (.database .uniqueConstraint)

/-- `update` of the row a unique column names. -/
def updateRow (t : Table ρ) (p : ρ → Bool) (f : ρ → ρ) : Except ServiceError (Table ρ) := do
  let _ ← orThrow (t.find? p) (.database .recordNotFound)
  orThrow (t.update p f) (.database .uniqueConstraint)

theorem insertRow_eq_ok {t t' : Table ρ} {row : ρ} (h : insertRow t row = .ok t') :
    t'.rows = t.rows ++ [row] := Table.rows_of_insert (orThrow_eq_ok.mp h)

/-- A row that could be stored clashed with none. -/
theorem not_clash_of_insertRow {t t' : Table ρ} {row : ρ} (h : insertRow t row = .ok t') :
    ∀ x ∈ t.rows, ¬ Schema.Clash x row := (Table.insert_eq_some.mp (orThrow_eq_ok.mp h)).1

/-- A row that clashes with none can be stored. -/
theorem exists_insertRow {t : Table ρ} {row : ρ} (h : ∀ x ∈ t.rows, ¬ Schema.Clash x row) :
    ∃ t', insertRow t row = .ok t' := by
  rw [insertRow, Table.insert, dif_pos h]
  exact ⟨_, rfl⟩

theorem updateRow_eq_ok {t t' : Table ρ} {p : ρ → Bool} {f : ρ → ρ}
    (h : updateRow t p f = .ok t') : t'.rows = t.rows.map fun r ↦ if p r then f r else r := by
  rw [updateRow, orThrow_bind_eq_ok] at h
  obtain ⟨_, -, h⟩ := h
  exact Table.rows_of_update (orThrow_eq_ok.mp h)

/-- An update that went through met its row. -/
theorem exists_of_updateRow {t t' : Table ρ} {p : ρ → Bool} {f : ρ → ρ}
    (h : updateRow t p f = .ok t') : ∃ r ∈ t.rows, p r = true := by
  rw [updateRow, orThrow_bind_eq_ok] at h
  obtain ⟨r, hfind, -⟩ := h
  exact ⟨r, Table.mem_of_find? hfind, Table.prop_of_find? hfind⟩

/-- An update of a row that is there goes through when it leaves the unique columns alone. -/
theorem exists_updateRow {t : Table ρ} {p : ρ → Bool} {f : ρ → ρ} {r : ρ} (hr : r ∈ t.rows)
    (hp : p r = true) (keep : ∀ {a b}, Schema.Clash (f a) b → Schema.Clash a b) :
    ∃ t', updateRow t p f = .ok t' := by
  obtain ⟨t', ht'⟩ := t.exists_update p keep
  cases hfind : t.find? p with
  | none => exact absurd hp (Table.not_of_find?_eq_none hfind hr)
  | some x =>
      refine ⟨t', ?_⟩
      rw [updateRow, hfind, ht']
      rfl

end Statements

/-- The tables. -/
structure Db where
  ledger : Ledger
  users : Table User
  wallets : Table Wallet
  linkedBankAccounts : Table LinkedBankAccount
  transfers : Table Transfer
  withdrawals : Table Withdrawal
  paymentIntents : Table PaymentIntent
  paymentWebhookEvents : Table PaymentWebhookEvent
  feeDefinitions : Table FeeDefinition
  feeTiers : Table FeeTier
  feeAssessments : Table FeeAssessment
  ajoGroups : Table AjoGroup
  ajoGroupMembers : Table AjoGroupMember
  ajoSlots : Table AjoSlot
  ajoContributionPlans : Table AjoContributionPlan
  groupInvitations : Table GroupInvitation
  ajoCycles : Table AjoCycle
  ajoScheduleVersions : Table AjoScheduleVersion
  contributionSchedules : Table ContributionSchedule
  payoutSchedules : Table PayoutSchedule
  contributions : Table Contribution
  payouts : Table Payout
  swapRequests : Table SwapRequest
  swapApprovals : Table SwapApproval
  akawo : AkawoTables
  food : FoodTables
  bills : BillTables
  kyc : KycTables
  referrals : ReferralTables

namespace Db

/-- A database with no rows. -/
def empty : Db where
  ledger := ⟨.empty, .empty, by simp⟩
  users := .empty
  wallets := .empty
  linkedBankAccounts := .empty
  transfers := .empty
  withdrawals := .empty
  paymentIntents := .empty
  paymentWebhookEvents := .empty
  feeDefinitions := .empty
  feeTiers := .empty
  feeAssessments := .empty
  ajoGroups := .empty
  ajoGroupMembers := .empty
  ajoSlots := .empty
  ajoContributionPlans := .empty
  groupInvitations := .empty
  ajoCycles := .empty
  ajoScheduleVersions := .empty
  contributionSchedules := .empty
  payoutSchedules := .empty
  contributions := .empty
  payouts := .empty
  swapRequests := .empty
  swapApprovals := .empty
  akawo := ⟨.empty, .empty, .empty⟩
  food := ⟨.empty, .empty, .empty, .empty, .empty, .empty, .empty⟩
  bills := ⟨.empty, .empty, .empty, .empty, .empty, .empty, .empty, .empty⟩
  kyc := ⟨.empty, .empty, .empty, .empty, .empty, .empty⟩
  referrals := ⟨.empty, .empty, .empty, .empty⟩

/-- `ledger.accountBalanceWithin` in the database at hand. -/
def balance (db : Db) (accountId : Uuid) : Int := db.ledger.accountBalanceWithin accountId

end Db

end AjoCloud
