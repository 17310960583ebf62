import AjoCloud.Ledger.Posting

/-!
# Accounts and their balances

Services find an account by its code or by its purpose.  An account found one way is not one found
another way when the purposes differ, and an account that does not exist yet has nothing on it.
-/

namespace AjoCloud.Ledger

open Lib

/-- A code made for one purpose is used for it. -/
theorem purpose_of_codePurpose {a : FinancialAccount} {p : FinancialAccountPurpose}
    (h : codePurpose a.code = some p) : a.purpose = some p := by
  rcases a.purpose_eq with hnone | heq
  · rw [hnone] at h
    cases h
  · rw [← heq, h]

variable {ledger ledger' : Ledger}

/-- Accounts with the same identifier are the same. -/
theorem account_eq_of_id {a b : FinancialAccount} (ha : a ∈ ledger.accounts.rows)
    (hb : b ∈ ledger.accounts.rows) (h : a.id = b.id) : a = b :=
  ledger.accounts.eq_of_clash ha hb (.inl h)

/-- Accounts with the same code are the same. -/
theorem account_eq_of_code {a b : FinancialAccount} (ha : a ∈ ledger.accounts.rows)
    (hb : b ∈ ledger.accounts.rows) (h : a.code = b.code) : a = b :=
  ledger.accounts.eq_of_clash ha hb (.inr ⟨rfl, congrArg some h⟩)

/-- An account no entry can refer to has balance zero. -/
theorem accountBalanceWithin_eq_zero {accountId : Uuid}
    (h : ∀ a ∈ ledger.accounts.rows, a.id ≠ accountId) :
    ledger.accountBalanceWithin accountId = 0 := by
  have hnone : ledger.postedEntries accountId = [] := by
    refine List.flatMap_eq_nil_iff.mpr fun t ht ↦ List.filter_eq_nil_iff.mpr fun e he hid ↦ ?_
    obtain ⟨a, ha, hae⟩ := ledger.foreignKey t (List.mem_filter.mp ht).1 e he
    exact h a ha (hae.trans (of_decide_eq_true hid))
  rw [accountBalanceWithin, hnone]
  rfl

/-! ## Opening accounts -/

/-- Nothing happened but that accounts were opened. -/
structure Opened (ledger ledger' : Ledger) : Prop where
  transactions : ledger'.transactions = ledger.transactions
  accounts : ∀ a ∈ ledger.accounts.rows, a ∈ ledger'.accounts.rows

theorem Opened.refl (ledger : Ledger) : Opened ledger ledger := ⟨rfl, fun _ h ↦ h⟩

theorem Opened.balance (h : Opened ledger ledger') (accountId : Uuid) :
    ledger'.accountBalanceWithin accountId = ledger.accountBalanceWithin accountId :=
  accountBalanceWithin_congr h.transactions accountId

theorem opened_of_createAccount {a : FinancialAccount}
    (h : ledger.createAccount a = .ok ledger') : Opened ledger ledger' := by
  obtain ⟨-, hrows, htx⟩ := createAccount_eq_ok h
  refine ⟨htx, fun b hb ↦ ?_⟩
  rw [hrows]
  exact List.mem_append_left _ hb

/-! ## The balance behind a code -/

/-- The account with a code. -/
def byCode (ledger : Ledger) (code : String) : Option FinancialAccount :=
  ledger.accounts.find? fun a ↦ a.code = code

/-- The balance of the account with a code, zero while there is none. -/
def codeBalance (ledger : Ledger) (code : String) : Int :=
  match ledger.byCode code with
  | some a => ledger.accountBalanceWithin a.id
  | none => 0

theorem byCode_eq_some {code : String} {a : FinancialAccount} :
    ledger.byCode code = some a ↔ a ∈ ledger.accounts.rows ∧ a.code = code := by
  constructor
  · intro h
    exact ⟨Table.mem_of_find? h, by simpa using Table.prop_of_find? h⟩
  · rintro ⟨ha, rfl⟩
    exact ledger.accounts.find?_eq_some_of_mem ha (by simp)
      fun x _ hx ↦ .inr ⟨rfl, by simpa using hx⟩

theorem codeBalance_eq {code : String} {a : FinancialAccount} (ha : a ∈ ledger.accounts.rows)
    (hcode : a.code = code) : ledger.codeBalance code = ledger.accountBalanceWithin a.id := by
  rw [codeBalance, byCode_eq_some.mpr ⟨ha, hcode⟩]

/-- Opening accounts changes no balance behind a code: a new account has nothing on it. -/
theorem Opened.codeBalance (h : Opened ledger ledger') (code : String) :
    ledger'.codeBalance code = ledger.codeBalance code := by
  cases hc : ledger.byCode code with
  | some a =>
      obtain ⟨ha, hcode⟩ := byCode_eq_some.mp hc
      rw [codeBalance_eq ha hcode, codeBalance_eq (h.accounts a ha) hcode, h.balance]
  | none =>
      cases hc' : ledger'.byCode code with
      | none => rw [Ledger.codeBalance, Ledger.codeBalance, hc, hc']
      | some a =>
          obtain ⟨ha, hcode⟩ := byCode_eq_some.mp hc'
          rw [codeBalance_eq ha hcode, h.balance, Ledger.codeBalance, hc]
          refine accountBalanceWithin_eq_zero fun b hb hid ↦ ?_
          have hba := account_eq_of_id (h.accounts b hb) ha hid
          have hnone : ledger.byCode code ≠ none := by
            rw [byCode_eq_some.mpr ⟨hb, hba ▸ hcode⟩]
            simp
          exact hnone hc

/-- A stored transaction moves the balance behind a code by what it does to the account. -/
theorem codeBalance_createTransaction {t : LedgerTransaction}
    (h : ledger.createTransaction t = .ok ledger') (ht : t.status = .posted) {code : String}
    {a : FinancialAccount} (ha : a ∈ ledger.accounts.rows) (hcode : a.code = code) :
    ledger'.codeBalance code = ledger.codeBalance code + t.net a.id := by
  have ha' : a ∈ ledger'.accounts.rows := by
    rw [(createTransaction_eq_ok h).2.2.2.1]
    exact ha
  rw [codeBalance_eq ha hcode, codeBalance_eq ha' hcode,
    accountBalanceWithin_createTransaction h ht]

/-- A transaction that does not touch the account with a code leaves its balance. -/
theorem codeBalance_createTransaction_of_untouched {t : LedgerTransaction}
    (h : ledger.createTransaction t = .ok ledger') (ht : t.status = .posted) {code : String}
    (hun : ∀ a ∈ ledger.accounts.rows, a.code = code → t.net a.id = 0) :
    ledger'.codeBalance code = ledger.codeBalance code := by
  have hacc := (createTransaction_eq_ok h).2.2.2.1
  cases hc : ledger.byCode code with
  | some a =>
      obtain ⟨ha, hcode⟩ := byCode_eq_some.mp hc
      rw [codeBalance_createTransaction h ht ha hcode, hun a ha hcode, add_zero]
  | none =>
      have hc' : ledger'.byCode code = none := by
        rw [byCode, hacc]
        exact hc
      rw [codeBalance, codeBalance, hc, hc']

/-- Accounts with different purposes have different identifiers. -/
theorem id_ne_of_purpose {a b : FinancialAccount} (ha : a ∈ ledger.accounts.rows)
    (hb : b ∈ ledger.accounts.rows) (h : a.purpose ≠ b.purpose) : a.id ≠ b.id :=
  fun hid ↦ h (account_eq_of_id ha hb hid ▸ rfl)

/-! ## Families of accounts -/

/-- Each owner has an account of its own for one purpose, under a code of its own. -/
structure Family (code : Uuid → String) (p : FinancialAccountPurpose) : Prop where
  inj : ∀ {g g'}, code g = code g' → g = g'
  codePurpose : ∀ g, codePurpose (code g) = some p

/-- A posting that touches one account of the family and no other moves that account only. -/
theorem Family.codeBalance_posting {code : Uuid → String} {p : FinancialAccountPurpose}
    (hf : Family code p) {id : Uuid} {command : LedgerPostingCommand}
    (h : ledger.createTransaction (postedTransaction id command) = .ok ledger')
    {owned : FinancialAccount} {g : Uuid} (howned : owned ∈ ledger.accounts.rows)
    (hcode : owned.code = code g)
    (hothers : ∀ e ∈ command.entries, e.accountId = owned.id ∨
      ∃ a ∈ ledger.accounts.rows, a.id = e.accountId ∧ a.purpose ≠ some p)
    (g' : Uuid) :
    ledger'.codeBalance (code g') = ledger.codeBalance (code g') +
      if g' = g then Journal.net command.legs owned.id else 0 := by
  by_cases hg : g' = g
  · subst hg
    rw [codeBalance_createTransaction h rfl howned hcode, if_pos rfl, LedgerTransaction.net,
      legs_postedTransaction]
  · rw [if_neg hg, add_zero]
    refine codeBalance_createTransaction_of_untouched h rfl fun a ha hacode ↦ ?_
    rw [LedgerTransaction.net, legs_postedTransaction]
    refine Journal.net_eq_zero fun l hl hla ↦ ?_
    obtain ⟨e, he, rfl⟩ := List.mem_map.mp hl
    rcases hothers e he with hep | ⟨b, hb, hbe, hbp⟩
    · have hap := account_eq_of_id ha howned (hla.symm.trans hep)
      subst hap
      exact hg (hf.inj (hacode.symm.trans hcode))
    · have hab := account_eq_of_id ha hb (hla.symm.trans hbe.symm)
      subst hab
      exact hbp (purpose_of_codePurpose (hacode ▸ hf.codePurpose g'))

/-! ## Accounts under codes of their own -/

/-- An account whose code no service makes up. -/
def plainAccount (id : Nat) (code : String) (type : AccountType) (purpose : FinancialAccountPurpose)
    (wallet : Option Nat) (hcode : codePurpose code = none) : FinancialAccount where
  id := .ofNat id
  code := code
  name := code
  type := type
  purpose := some purpose
  currency := "NGN"
  walletId := wallet.map .ofNat
  isActive := true
  purpose_eq := .inl hcode

theorem codePurpose_provider : codePurpose "PROVIDER:NGN" = none := by decide
theorem codePurpose_fees : codePurpose "FEES:NGN" = none := by decide
theorem codePurpose_wallet1 : codePurpose "WALLET:1" = none := by decide
theorem codePurpose_wallet2 : codePurpose "WALLET:2" = none := by decide

end AjoCloud.Ledger
