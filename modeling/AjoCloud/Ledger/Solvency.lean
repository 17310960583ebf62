import AjoCloud.Ledger.Accounts

/-!
# Solvency

A ledger is solvent when no wallet's available account is below zero.  A request opens accounts
and posts at most one command (`Posts`); it keeps the ledger solvent when the command takes from a
wallet no more than the wallet holds (`Affords`).  There are two ways to see that a command does:
it debits no wallet, or it has one debit, which was checked against the balance.
-/

namespace AjoCloud.Ledger

open Lib

/-- No wallet is overdrawn. -/
def Solvent (ledger : Ledger) : Prop :=
  ∀ a ∈ ledger.accounts.rows, a.purpose = some .walletAvailable →
    0 ≤ ledger.accountBalanceWithin a.id

/-- The command overdraws no wallet that is not overdrawn already. -/
def Affords (ledger : Ledger) (command : LedgerPostingCommand) : Prop :=
  ∀ a ∈ ledger.accounts.rows, a.purpose = some .walletAvailable →
    0 ≤ ledger.accountBalanceWithin a.id →
      0 ≤ ledger.accountBalanceWithin a.id + Journal.net command.legs a.id

/-! ## Commands that wallets can afford -/

theorem net_cons_entry (e : LedgerPostingEntry) (entries : List LedgerPostingEntry) (a : Uuid) :
    Journal.net ((e :: entries).map (·.leg)) a =
      (if e.accountId = a then e.direction.signed e.amountMinor else 0) +
        Journal.net (entries.map (·.leg)) a := Journal.net_cons e.leg _ a

/-- Lines that only credit an account do not lower it. -/
theorem net_nonneg {entries : List LedgerPostingEntry} {a : Uuid}
    (hpos : ∀ e ∈ entries, 0 < e.amountMinor)
    (hcredit : ∀ e ∈ entries, e.accountId = a → e.direction = .credit) :
    0 ≤ Journal.net (entries.map (·.leg)) a := by
  induction entries with
  | nil => exact le_refl 0
  | cons e entries ih =>
      rw [List.forall_mem_cons] at hpos hcredit
      have hrest := ih hpos.2 hcredit.2
      rw [net_cons_entry]
      by_cases hid : e.accountId = a
      · have := hpos.1
        rw [if_pos hid, hcredit.1 hid, EntryDirection.signed_credit]
        omega
      · rw [if_neg hid, zero_add]
        exact hrest

variable {ledger mid ledger' : Ledger} {command : LedgerPostingCommand}

/-- A command that debits no wallet. -/
theorem affords_of_debits (hb : command.Balanced)
    (h : ∀ e ∈ command.entries, e.direction = .debit →
      ∃ b ∈ ledger.accounts.rows, b.id = e.accountId ∧ b.purpose ≠ some .walletAvailable) :
    Affords ledger command := by
  intro a ha hwallet hbal
  have hnet : 0 ≤ Journal.net command.legs a.id := by
    refine net_nonneg hb.pos fun e he hid ↦ ?_
    cases hdir : e.direction with
    | credit => rfl
    | debit =>
        obtain ⟨b, hbmem, hbid, hbp⟩ := h e he hdir
        have hab := account_eq_of_id hbmem ha (hbid.trans hid)
        subst hab
        exact absurd hwallet hbp
  omega

/-- A command with one debit, covered by the balance of the account it is on. -/
theorem affords_of_payer {payer : Uuid} {amount : Int} {rest : List LedgerPostingEntry}
    (hb : command.Balanced) (hentries : command.entries = ⟨payer, .debit, amount⟩ :: rest)
    (hrest : ∀ e ∈ rest, e.direction = .credit)
    (hcovered : amount ≤ ledger.accountBalanceWithin payer) : Affords ledger command := by
  intro a _ _ hbal
  have hpos := hb.pos
  rw [hentries, List.forall_mem_cons] at hpos
  have hnet := net_nonneg (a := a.id) hpos.2 fun e he _ ↦ hrest e he
  rw [LedgerPostingCommand.legs, hentries, net_cons_entry, EntryDirection.signed_debit]
  by_cases hid : payer = a.id
  · rw [hid] at hcovered
    rw [if_pos hid]
    dsimp only
    omega
  · rw [if_neg hid]
    omega

/-! ## Requests -/

/-- Accounts may have been opened, and at most one command was posted; `P` holds of it in the
ledger it was posted to. -/
inductive Posts (P : Ledger → LedgerPostingCommand → Prop) (ledger ledger' : Ledger) : Prop
  | /-- Nothing was posted. -/
    opened (h : Opened ledger ledger')
  | /-- The command was posted. -/
    posted (mid : Ledger) (h : Opened ledger mid) (id : Uuid) (command : LedgerPostingCommand)
      (created : mid.createTransaction (postedTransaction id command) = .ok ledger')
      (prop : P mid command)

variable {P Q : Ledger → LedgerPostingCommand → Prop}

theorem Posts.refl (ledger : Ledger) : Posts P ledger ledger := .opened (.refl ledger)

/-- A replayed command posts nothing. -/
theorem Posts.of_postWithin {id : Uuid} {ref : LedgerReference} (h : Opened ledger mid)
    (hpost : mid.postWithin id command = .ok (ref, ledger'))
    (hP : command.Balanced → P mid command) : Posts P ledger ledger' := by
  obtain ⟨hb, hposted⟩ := postWithin_eq_ok hpost
  cases hposted with
  | replayed _ _ _ _ same => exact .opened (same ▸ h)
  | appended _ created _ => exact .posted mid h id command created (hP hb)

theorem Opened.solvent (h : Opened ledger ledger') (hs : Solvent ledger) : Solvent ledger' := by
  intro a _ hwallet
  rw [h.balance]
  by_cases hold : ∃ b ∈ ledger.accounts.rows, b.id = a.id
  · obtain ⟨b, hb, hid⟩ := hold
    have hba := account_eq_of_id (h.accounts b hb) ‹_› hid
    subst hba
    exact hs b hb hwallet
  · -- The account is new, and nothing has been posted on it.
    push Not at hold
    exact le_of_eq (accountBalanceWithin_eq_zero hold).symm

/-- A request whose command wallets can afford keeps the ledger solvent. -/
theorem Posts.solvent (h : Posts P ledger ledger') (hP : ∀ l c, P l c → Affords l c)
    (hs : Solvent ledger) : Solvent ledger' := by
  cases h with
  | opened h => exact h.solvent hs
  | posted mid h id command created prop =>
      have hmid := h.solvent hs
      have haccounts := (createTransaction_eq_ok created).2.2.2.1
      intro a ha hwallet
      rw [haccounts] at ha
      rw [accountBalanceWithin_createTransaction created rfl, LedgerTransaction.net,
        legs_postedTransaction]
      exact hP mid command prop a ha hwallet (hmid a ha hwallet)

end AjoCloud.Ledger
