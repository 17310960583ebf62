import AjoCloud.Ledger.Posting
import AjoCloud.Lib.Frame

/-!
# Postings that are alike

Whether the ledger takes a posting does not depend on the accounts its lines name, as long as these
exist, nor on the transactions of others, as long as they agree with it on no unique column.
-/

namespace AjoCloud.Ledger

open Lib

/-- The commands are the same but for the accounts of their lines. -/
structure LedgerPostingCommand.Alike (c c' : LedgerPostingCommand) : Prop where
  key_eq : c'.idempotencyKey = c.idempotencyKey
  reference_eq : c'.reference = c.reference
  description_eq : c'.description = c.description
  currency_eq : c'.currency = c.currency
  correlationId_eq : c'.correlationId = c.correlationId
  lines_eq : c'.entries.map (fun e ↦ (e.direction, e.amountMinor)) =
    c.entries.map fun e ↦ (e.direction, e.amountMinor)

theorem LedgerPostingCommand.Alike.refl (c : LedgerPostingCommand) : c.Alike c :=
  ⟨rfl, rfl, rfl, rfl, rfl, rfl⟩

/-- The sums do not depend on the accounts. -/
theorem sumEntries_congr {entries entries' : List LedgerPostingEntry}
    (h : entries'.map (fun e ↦ (e.direction, e.amountMinor)) =
      entries.map fun e ↦ (e.direction, e.amountMinor)) (debits credits : Int) :
    sumEntries entries' debits credits = sumEntries entries debits credits := by
  induction entries generalizing entries' debits credits with
  | nil => rw [List.map_eq_nil_iff.mp h]
  | cons e entries ih =>
      obtain ⟨e', entries', rfl, he, htail⟩ := List.map_eq_cons_iff.mp h
      obtain ⟨hdirection, hamount⟩ := Prod.mk.inj he
      rw [sumEntries, sumEntries, hdirection, hamount]
      simp only [ih htail]

variable {c c' : LedgerPostingCommand} {ledger ledger' : Ledger} {id : Uuid}
  {P : LedgerTransaction → Prop}

theorem LedgerPostingCommand.Alike.assertBalancedPosting (h : c.Alike c') :
    assertBalancedPosting c' = assertBalancedPosting c := by
  have hlength : c'.entries.length = c.entries.length := by
    simpa only [List.length_map] using congrArg List.length h.lines_eq
  simp only [Ledger.assertBalancedPosting, hlength, h.currency_eq, sumEntries_congr h.lines_eq]

theorem amounts_postedTransaction :
    (∀ e ∈ (postedTransaction id c).entries, fitsBigInt e.amountMinor = true) ↔
      ∀ line ∈ c.entries.map fun e ↦ (e.direction, e.amountMinor), fitsBigInt line.2 = true := by
  rw [postedTransaction, List.forall_mem_map]
  conv_rhs => rw [← map_numberEntries c.currency 0 c.entries]
  rw [List.forall_mem_map]
  rfl

theorem LedgerPostingCommand.Alike.fits_iff (h : c.Alike c') :
    (postedTransaction id c').fits ↔ (postedTransaction id c).fits := by
  simp only [LedgerTransaction.fits, amounts_postedTransaction, h.lines_eq]
  simp only [postedTransaction, h.reference_eq, h.key_eq, h.description_eq, h.currency_eq,
    h.correlationId_eq]

/-- The key is looked up with the same answer. -/
theorem byKey_grown {key : String} (h : Table.Grown P ledger.transactions ledger'.transactions)
    (hkey : ∀ t, P t → t.idempotencyKey ≠ key) : ledger'.byKey key = ledger.byKey key :=
  h.find?_eq fun t ht ↦ decide_eq_false (hkey t ht)

/-- Commands that are alike are taken together, whatever others have posted in between. -/
theorem agree_postWithin (h : Table.Grown P ledger.transactions ledger'.transactions)
    (hkey : ∀ t, P t → t.idempotencyKey ≠ c.idempotencyKey)
    (hclash : ∀ t, P t → t.id ≠ id ∧ t.reference ≠ c.reference) (halike : c.Alike c')
    (haccounts : ∀ e ∈ c.entries, ∃ a ∈ ledger.accounts.rows, a.id = e.accountId)
    (haccounts' : ∀ e ∈ c'.entries, ∃ a ∈ ledger'.accounts.rows, a.id = e.accountId) :
    Agree (ledger'.postWithin id c') (ledger.postWithin id c) := by
  have hlines : ∀ {ledger : Ledger} {c : LedgerPostingCommand},
      (∀ e ∈ c.entries, ∃ a ∈ ledger.accounts.rows, a.id = e.accountId) →
      ∀ e ∈ (postedTransaction id c).entries, ∃ a ∈ ledger.accounts.rows, a.id = e.accountId :=
    fun haccounts e he ↦ haccounts _ (line_mem_of_mem_numberEntries he)
  have hfresh : (∀ t ∈ ledger'.transactions.rows, ¬ Schema.Clash t (postedTransaction id c')) ↔
      ∀ t ∈ ledger.transactions.rows, ¬ Schema.Clash t (postedTransaction id c) := by
    have hsame : ∀ t, Schema.Clash t (postedTransaction id c') ↔
        Schema.Clash t (postedTransaction id c) := fun t ↦ by
      rw [clash_postedTransaction_iff, clash_postedTransaction_iff, halike.reference_eq, halike.key_eq]
    simp only [hsame]
    refine h.fresh_iff fun t ht hclash' ↦ ?_
    rcases clash_postedTransaction_iff.mp hclash' with (heq | heq) | heq
    · exact (hclash t ht).1 heq
    · exact (hclash t ht).2 heq
    · exact hkey t ht heq
  rw [Agree, exists_postWithin_iff, exists_postWithin_iff, exists_createTransaction_iff,
    exists_createTransaction_iff, halike.assertBalancedPosting, halike.key_eq, byKey_grown h hkey,
    halike.fits_iff, hfresh, iff_true_intro (hlines haccounts), iff_true_intro (hlines haccounts')]

end AjoCloud.Ledger
