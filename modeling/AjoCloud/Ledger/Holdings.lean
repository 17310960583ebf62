import AjoCloud.Ledger.Accounts

/-!
# The balance of several accounts

What the accounts of one kind hold together, and what a posting does to it.  An account that is
opened holds nothing, so only postings move the sum.
-/

namespace AjoCloud.Ledger

open Lib

/-- What the accounts that satisfy `p` hold. -/
def balanceOver (ledger : Ledger) (p : FinancialAccount → Bool) : Int :=
  sumWhere ledger.accounts.rows p fun a ↦ ledger.accountBalanceWithin a.id

/-- What the movements do to the accounts that satisfy `p`. -/
def netOver (ledger : Ledger) (p : FinancialAccount → Bool) (legs : List (Leg Uuid)) : Int :=
  sumWhere ledger.accounts.rows p fun a ↦ Journal.net legs a.id

variable {ledger ledger' mid : Ledger} {p : FinancialAccount → Bool}

@[simp] theorem netOver_nil : ledger.netOver p [] = 0 := by
  rw [netOver, sumWhere_congr (q := fun _ ↦ false) (g := fun _ ↦ 0) fun a _ ↦ ?_]
  · exact sumWhere_eq_zero fun _ _ ↦ nofun
  · simp

/-- One movement more, on an account that is there. -/
theorem netOver_cons {a : FinancialAccount} (ha : a ∈ ledger.accounts.rows) (amount : Int)
    (legs : List (Leg Uuid)) :
    ledger.netOver p (⟨a.id, amount⟩ :: legs) = (if p a then amount else 0) + ledger.netOver p legs := by
  rw [netOver, netOver, sumWhere_change (p := p) (f := fun a ↦ Journal.net legs a.id)
    ledger.accounts.nodup ha fun b hb hne ↦ ?_]
  · rw [Journal.net_cons, if_pos rfl]
    split
    · ring
    · ring
  · have hid : a.id ≠ b.id := fun h ↦ hne (account_eq_of_id hb ha h.symm)
    simp only [Journal.net_cons, hid, if_false, zero_add]

/-- Movements on other accounts. -/
theorem netOver_eq_zero {legs : List (Leg Uuid)}
    (h : ∀ l ∈ legs, ∀ a ∈ ledger.accounts.rows, a.id = l.account → p a = false) :
    ledger.netOver p legs = 0 := by
  rw [netOver, sumWhere_congr (q := fun _ ↦ false) (g := fun _ ↦ 0) fun a ha ↦ ?_]
  · exact sumWhere_eq_zero fun _ _ ↦ nofun
  · by_cases hp : p a = true
    · rw [Journal.net_eq_zero]
      · simp
      · intro l hl hid
        rw [h l hl a ha hid.symm] at hp
        cases hp
    · simp [hp]

theorem Opened.balanceOver (h : Opened ledger ledger') :
    ledger'.balanceOver p = ledger.balanceOver p := by
  rw [Ledger.balanceOver, Ledger.balanceOver]
  simp only [h.balance]
  refine sumWhere_of_subset ledger.accounts.nodup ledger'.accounts.nodup h.accounts fun a ha hnot ↦ ?_
  refine accountBalanceWithin_eq_zero fun b hb hid ↦ hnot ?_
  rw [← account_eq_of_id (h.accounts b hb) ha hid]
  exact hb

theorem balanceOver_createTransaction {t : LedgerTransaction}
    (h : ledger.createTransaction t = .ok ledger') (ht : t.status = .posted) :
    ledger'.balanceOver p = ledger.balanceOver p + ledger.netOver p t.legs := by
  rw [balanceOver, balanceOver, netOver, (createTransaction_eq_ok h).2.2.2.1]
  simp only [accountBalanceWithin_createTransaction h ht]
  rw [sumWhere_add]
  rfl

/-- A posting under a fresh key moves the sum by what it asks for. -/
theorem balanceOver_postWithin {id : Uuid} {command : LedgerPostingCommand} {ref : LedgerReference}
    (hopens : Opened ledger mid) (hpost : mid.postWithin id command = .ok (ref, ledger'))
    (hfresh : ∀ t ∈ ledger.transactions.rows, t.idempotencyKey ≠ command.idempotencyKey) :
    ledger'.balanceOver p = ledger.balanceOver p + mid.netOver p command.legs := by
  cases (postWithin_eq_ok hpost).2 with
  | replayed existing mem key _ _ =>
      rw [hopens.transactions] at mem
      exact absurd key (hfresh existing mem)
  | appended _ created _ =>
      rw [balanceOver_createTransaction created rfl, hopens.balanceOver, legs_postedTransaction]

/-- A posting that leaves the accounts alone leaves the sum, replayed or not. -/
theorem balanceOver_postWithin_of_zero {id : Uuid} {command : LedgerPostingCommand}
    {ref : LedgerReference} (hopens : Opened ledger mid)
    (hpost : mid.postWithin id command = .ok (ref, ledger'))
    (hzero : mid.netOver p command.legs = 0) : ledger'.balanceOver p = ledger.balanceOver p := by
  cases (postWithin_eq_ok hpost).2 with
  | replayed _ _ _ _ same => rw [same, hopens.balanceOver]
  | appended _ created _ =>
      rw [balanceOver_createTransaction created rfl, hopens.balanceOver, legs_postedTransaction,
        hzero, add_zero]

end AjoCloud.Ledger
