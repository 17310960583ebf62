import AjoCloud.Ledger.Accounts

/-!
# Transfers

A transfer is a posting with two lines: it takes an amount from one account and gives it to another.
Here it is said exactly when the ledger accepts one under a key that it does not know, and what the
balances are afterwards.
-/

namespace AjoCloud.Ledger

open Lib

variable {ledger ledger' : Ledger} {id : Uuid} {command : LedgerPostingCommand}
  {source destination : Uuid} {amount : Int}

/-- The command moves the amount from the one account to the other. -/
def LedgerPostingCommand.Transfers (command : LedgerPostingCommand) (source destination : Uuid)
    (amount : Int) : Prop :=
  command.entries = [⟨source, .debit, amount⟩, ⟨destination, .credit, amount⟩]

/-! ## When it is accepted -/

/-- A transfer passes `assertBalancedPosting` when its amount is positive and its currency is a
code. -/
theorem assertBalancedPosting_transfer (h : command.Transfers source destination amount) :
    assertBalancedPosting command = .ok () ↔
      isCurrencyCode command.currency = true ∧ 0 < amount := by
  constructor
  · intro hassert
    have hbalanced := balanced_of_assertBalancedPosting hassert
    refine ⟨hbalanced.currency, hbalanced.pos ⟨source, .debit, amount⟩ ?_⟩
    rw [h]
    exact List.mem_cons_self ..
  · rintro ⟨hcurrency, hpos⟩
    simp only [assertBalancedPosting, bind_eq_ok, require_eq_ok, exists_const]
    rw [h]
    refine ⟨by simp, hcurrency, (amount, amount), ?_, rfl⟩
    simp [sumEntries, not_le.mpr hpos]

/-- What the columns of the ledger, apart from its keys, ask of a command. -/
structure LedgerPostingCommand.FitsColumns (command : LedgerPostingCommand) : Prop where
  reference : fitsVarChar 80 command.reference
  description : fitsVarChar 500 command.description
  correlationId : ∀ c ∈ command.correlationId, fitsVarChar 128 c

theorem length_of_isCurrencyCode {currency : String} (h : isCurrencyCode currency = true) :
    currency.length = 3 := by
  rw [isCurrencyCode, Bool.and_eq_true, beq_iff_eq] at h
  exact h.1

/-- A command whose columns, key, currency and amounts fit is stored as a transaction that fits. -/
theorem fits_postedTransaction (hcolumns : command.FitsColumns)
    (hkey : fitsVarChar 128 command.idempotencyKey)
    (hcurrency : isCurrencyCode command.currency = true)
    (hamounts : ∀ e ∈ command.entries, fitsBigInt e.amountMinor = true) :
    (postedTransaction id command).fits := by
  refine ⟨hcolumns.reference, hkey, hcolumns.description, ?_, ?_, ?_⟩
  · exact le_of_eq (length_of_isCurrencyCode hcurrency)
  · intro c hc
    exact hcolumns.correlationId c (Option.mem_filter_iff.mp hc).1
  · intro e he
    exact hamounts e.line (line_mem_of_mem_numberEntries he)

/-- Under a new identifier and a new key, a transfer between accounts that exist is accepted when its
currency is a code, its amount is positive and fits, its key fits, and its reference is new. -/
theorem exists_postWithin_transfer_iff (h : command.Transfers source destination amount)
    (hcolumns : command.FitsColumns)
    (hsource : ∃ a ∈ ledger.accounts.rows, a.id = source)
    (hdestination : ∃ a ∈ ledger.accounts.rows, a.id = destination)
    (hid : ∀ t ∈ ledger.transactions.rows, t.id ≠ id)
    (hkey : ∀ t ∈ ledger.transactions.rows, t.idempotencyKey ≠ command.idempotencyKey) :
    (∃ r, ledger.postWithin id command = .ok r) ↔
      isCurrencyCode command.currency = true ∧ 0 < amount ∧ fitsBigInt amount = true ∧
        fitsVarChar 128 command.idempotencyKey ∧
        ∀ t ∈ ledger.transactions.rows, t.reference ≠ command.reference := by
  have hnone : ledger.byKey command.idempotencyKey = none := by
    rw [byKey, Table.find?, List.find?_eq_none]
    intro t ht heq
    exact hkey t ht (of_decide_eq_true heq)
  have hentries : (postedTransaction id command).entries =
      [⟨source, .debit, amount, command.currency, 1⟩,
        ⟨destination, .credit, amount, command.currency, 2⟩] := by
    simp only [postedTransaction]
    rw [h]
    rfl
  have haccounts : ∀ e ∈ (postedTransaction id command).entries,
      ∃ a ∈ ledger.accounts.rows, a.id = e.accountId := by
    rw [hentries]
    exact List.forall_mem_cons.mpr ⟨hsource, List.forall_mem_cons.mpr ⟨hdestination,
      List.forall_mem_nil _⟩⟩
  rw [exists_postWithin_iff, assertBalancedPosting_transfer h, hnone, exists_createTransaction_iff]
  simp only [reduceCtorEq, exists_false, false_or, true_and]
  constructor
  · rintro ⟨⟨hcurrency, hpos⟩, ⟨-, hfits, -, -, -, hamounts⟩, -, hfresh⟩
    rw [hentries] at hamounts
    refine ⟨hcurrency, hpos, hamounts _ (List.mem_cons_self ..), hfits, fun t ht heq ↦ ?_⟩
    exact hfresh t ht (clash_postedTransaction_iff.mpr (.inl (.inr heq)))
  · rintro ⟨hcurrency, hpos, hfits, hfitsKey, hreference⟩
    refine ⟨⟨hcurrency, hpos⟩, fits_postedTransaction hcolumns hfitsKey hcurrency ?_, haccounts, ?_⟩
    · rw [h]
      exact List.forall_mem_cons.mpr ⟨hfits, List.forall_mem_cons.mpr ⟨hfits,
        List.forall_mem_nil _⟩⟩
    · intro t ht hclash
      rcases clash_postedTransaction_iff.mp hclash with (heq | heq) | heq
      · exact hid t ht heq
      · exact hreference t ht heq
      · exact hkey t ht heq

/-! ## What it does -/

/-- What a transfer does to an account. -/
theorem net_transfer (h : command.Transfers source destination amount) (a : Uuid) :
    Journal.net command.legs a =
      (if source = a then -amount else 0) + if destination = a then amount else 0 := by
  rw [LedgerPostingCommand.legs, h]
  simp [LedgerPostingEntry.leg, Journal.net_cons]

/-- A transfer under a new key moves the balances by its amount. -/
theorem balance_of_transfer {ref : LedgerReference}
    (h : command.Transfers source destination amount)
    (hpost : ledger.postWithin id command = .ok (ref, ledger'))
    (hkey : ∀ t ∈ ledger.transactions.rows, t.idempotencyKey ≠ command.idempotencyKey) (a : Uuid) :
    ledger'.accountBalanceWithin a = ledger.accountBalanceWithin a +
      ((if source = a then -amount else 0) + if destination = a then amount else 0) := by
  cases (postWithin_eq_ok hpost).2 with
  | replayed existing mem key _ _ => exact absurd key (hkey existing mem)
  | appended _ created _ =>
      rw [accountBalanceWithin_createTransaction created rfl, LedgerTransaction.net,
        legs_postedTransaction, net_transfer h]

end AjoCloud.Ledger
