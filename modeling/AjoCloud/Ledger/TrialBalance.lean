import AjoCloud.Ledger.Posting
import AjoCloud.Lib.Run

/-!
# The trial balance

Whatever sequence of postings and reversals the ledger has seen, each stored transaction is
well formed and the balances of all accounts add up to zero, currency by currency.
-/

namespace AjoCloud.Ledger

open Lib

/-! ## Well-formed transactions -/

/-- The debits of a transaction. -/
def LedgerTransaction.debits (t : LedgerTransaction) : Int :=
  sumWhere t.entries (fun e ↦ e.direction = .debit) (·.amountMinor)

/-- The credits of a transaction. -/
def LedgerTransaction.credits (t : LedgerTransaction) : Int :=
  sumWhere t.entries (fun e ↦ e.direction = .credit) (·.amountMinor)

/-- At least two entries, all amounts positive, one currency, and equal debits and credits. -/
structure LedgerTransaction.WellFormed (t : LedgerTransaction) : Prop where
  two_le : 2 ≤ t.entries.length
  pos : ∀ e ∈ t.entries, 0 < e.amountMinor
  currency : ∀ e ∈ t.entries, e.currency = t.currency
  balanced : t.debits = t.credits

theorem total_legs (t : LedgerTransaction) : Journal.total t.legs = t.credits - t.debits := by
  rw [LedgerTransaction.legs, LedgerTransaction.credits, LedgerTransaction.debits]
  induction t.entries with
  | nil => rfl
  | cons e entries ih =>
      rw [List.map_cons, Journal.total_cons, ih, sumWhere_cons, sumWhere_cons, LedgerEntry.leg]
      cases e.direction with
      | debit => simp only [EntryDirection.signed_debit, reduceCtorEq, decide_false, decide_true,
          Bool.false_eq_true, if_false, if_true]; ring
      | credit => simp only [EntryDirection.signed_credit, reduceCtorEq, decide_false, decide_true,
          Bool.false_eq_true, if_false, if_true]; ring

theorem balanced_iff_total (t : LedgerTransaction) :
    t.debits = t.credits ↔ Journal.total t.legs = 0 := by
  rw [total_legs]
  omega

theorem currency_of_mem_numberEntries {currency : String} {n : Nat}
    {entries : List LedgerPostingEntry} {e : LedgerEntry}
    (h : e ∈ numberEntries currency n entries) : e.currency = currency := by
  induction entries generalizing n with
  | nil => cases h
  | cons e₀ entries ih =>
      rcases List.mem_cons.mp h with rfl | h
      · rfl
      · exact ih h

theorem length_numberEntries (currency : String) (n : Nat) (entries : List LedgerPostingEntry) :
    (numberEntries currency n entries).length = entries.length := by
  conv_rhs => rw [← map_numberEntries currency n entries, List.length_map]

/-- A balanced command is stored as a well-formed transaction. -/
theorem wellFormed_postedTransaction {command : LedgerPostingCommand} (h : command.Balanced)
    (id : Uuid) : (postedTransaction id command).WellFormed where
  two_le := by
    rw [postedTransaction, length_numberEntries]
    exact h.two_le
  pos := by
    intro e he
    exact h.pos e.line (line_mem_of_mem_numberEntries he)
  currency := fun e he ↦ currency_of_mem_numberEntries he
  balanced := by
    rw [balanced_iff_total, legs_postedTransaction]
    exact h.total

theorem mem_reverseEntries {n : Nat} {entries : List LedgerEntry} {e : LedgerEntry}
    (h : e ∈ reverseEntries n entries) :
    ∃ e₀ ∈ entries, e₀.accountId = e.accountId ∧ e₀.amountMinor = e.amountMinor ∧
      e₀.currency = e.currency := by
  induction entries generalizing n with
  | nil => cases h
  | cons e₀ entries ih =>
      rcases List.mem_cons.mp h with rfl | h
      · exact ⟨e₀, by simp, rfl, rfl, rfl⟩
      · obtain ⟨e₁, he₁, heq⟩ := ih h
        exact ⟨e₁, List.mem_cons_of_mem _ he₁, heq⟩

theorem length_reverseEntries (n : Nat) (entries : List LedgerEntry) :
    (reverseEntries n entries).length = entries.length := by
  induction entries generalizing n with
  | nil => rfl
  | cons e entries ih => rw [reverseEntries, List.length_cons, List.length_cons, ih]

/-- The reversal of a well-formed transaction is well formed. -/
theorem wellFormed_reversalTransaction {original : LedgerTransaction} (h : original.WellFormed)
    (id : Uuid) (key reference : String) :
    (reversalTransaction id original key reference).WellFormed where
  two_le := by
    rw [reversalTransaction, length_reverseEntries, List.length_insertionSort]
    exact h.two_le
  pos := by
    intro e he
    obtain ⟨e₀, he₀, -, hamount, -⟩ := mem_reverseEntries he
    exact hamount ▸ h.pos e₀ ((List.mem_insertionSort _).mp he₀)
  currency := by
    intro e he
    obtain ⟨e₀, he₀, -, -, hcur⟩ := mem_reverseEntries he
    exact hcur ▸ h.currency e₀ ((List.mem_insertionSort _).mp he₀)
  balanced := by
    have hperm := (List.perm_insertionSort (fun a b : LedgerEntry ↦ a.sequence ≤ b.sequence)
      original.entries).map (·.leg)
    have hlegs : (reversalTransaction id original key reference).legs =
        Journal.undo ((original.entries.insertionSort fun a b ↦ a.sequence ≤ b.sequence).map
          (·.leg)) := legs_reverseEntries 0 _
    have htotal : Journal.total ((original.entries.insertionSort
        fun a b ↦ a.sequence ≤ b.sequence).map (·.leg)) = Journal.total original.legs :=
      (hperm.map _).sum_eq
    rw [balanced_iff_total, hlegs, Journal.total_undo, htotal,
      (balanced_iff_total original).mp h.balanced, neg_zero]

/-! ## One call -/

/-- What a call does to the stored transactions: nothing, one posting, or one reversal. -/
inductive StepCases (ledger ledger' : Ledger) : Prop
  | /-- The call was rejected or replayed. -/
    unchanged (same : ledger' = ledger)
  | /-- A balanced command was stored. -/
    posted (id : Uuid) (command : LedgerPostingCommand) (balanced : command.Balanced)
      (created : ledger.createTransaction (postedTransaction id command) = .ok ledger')
  | /-- A posted transaction was reversed. -/
    reversed (id : Uuid) (original : LedgerTransaction) (key reference : String)
      (created : Ledger) (mem : original ∈ ledger.transactions.rows)
      (status : original.status = .posted)
      (create : ledger.createTransaction (reversalTransaction id original key reference)
        = .ok created)
      (marked : ledger' = created.setStatus original.id .reversed)

theorem stepCases_of_postWithin {ledger ledger' : Ledger} {id : Uuid}
    {command : LedgerPostingCommand} {ref : LedgerReference}
    (h : ledger.postWithin id command = .ok (ref, ledger')) : StepCases ledger ledger' := by
  obtain ⟨hbal, hposted⟩ := postWithin_eq_ok h
  cases hposted with
  | replayed _ _ _ _ same => exact .unchanged same
  | appended _ created _ => exact .posted id command hbal created

theorem step_cases (ledger : Ledger) (call : Call) : StepCases ledger (step ledger call) := by
  rcases committed_cases ledger (call.result ledger) with h | ⟨ref, ledger', hres, h⟩
  · exact .unchanged h
  · rw [step, h]
    cases call with
    | post id command => exact stepCases_of_postWithin (post_eq_ok hres)
    | postWithin id command => exact stepCases_of_postWithin hres
    | reverse id originalId key reference =>
        obtain ⟨original, hmem, -, hposted, hrev⟩ := reverse_eq_ok hres
        cases hrev with
        | replayed _ _ _ same => exact .unchanged same
        | appended created _ create marked =>
            exact .reversed id original key reference created hmem hposted create marked

/-- Every stored transaction stays well formed. -/
theorem wellFormed_step {ledger : Ledger} (call : Call)
    (h : ∀ t ∈ ledger.transactions.rows, t.WellFormed) :
    ∀ t ∈ (step ledger call).transactions.rows, t.WellFormed := by
  rcases step_cases ledger call with same | ⟨id, command, hbal, created⟩ |
    ⟨id, original, key, reference, created, hmem, -, create, marked⟩
  · rw [same]
    exact h
  · intro t ht
    rw [(createTransaction_eq_ok created).2.2.2.2, List.mem_append, List.mem_singleton] at ht
    rcases ht with ht | rfl
    · exact h t ht
    · exact wellFormed_postedTransaction hbal id
  · intro t ht
    rw [marked, rows_setStatus, (createTransaction_eq_ok create).2.2.2.2] at ht
    obtain ⟨t₀, ht₀, rfl⟩ := List.mem_map.mp ht
    have hwf : t₀.WellFormed := by
      rcases List.mem_append.mp ht₀ with ht₀ | ht₀
      · exact h t₀ ht₀
      · rw [List.mem_singleton.mp ht₀]
        exact wellFormed_reversalTransaction (h original hmem) id key reference
    split
    · exact ⟨hwf.two_le, hwf.pos, hwf.currency, hwf.balanced⟩
    · exact hwf

/-- Every stored transaction is well formed, whatever calls were made. -/
theorem wellFormed_of_reaches {ledger₀ ledger : Ledger} (h₀ : ledger₀.transactions.rows = [])
    (h : Reaches step anyCall ledger₀ ledger) : ∀ t ∈ ledger.transactions.rows, t.WellFormed := by
  refine h.invariant (I := fun l ↦ ∀ t ∈ l.transactions.rows, t.WellFormed) ?_ ?_
  · simp [h₀]
  · intro l call hl _
    exact wellFormed_step call hl

/-! ## Sums over accounts -/

/-- The part of an account's balance that is in one currency. -/
def accountBalanceIn (ledger : Ledger) (currency : String) (accountId : Uuid) : Int :=
  ((ledger.postedEntries accountId).filter fun e ↦ e.currency = currency).foldl addEntry 0

/-- The movements of the posted transactions, through the entries that `q` selects. -/
def postedLegs (ledger : Ledger) (q : LedgerEntry → Bool) : List (Leg Uuid) :=
  (ledger.transactions.rows.filter fun t ↦ t.status = .posted).flatMap fun t ↦
    (t.entries.filter q).map (·.leg)

theorem foldl_postedEntries (ledger : Ledger) (q : LedgerEntry → Bool) (a : Uuid) :
    ((ledger.postedEntries a).filter q).foldl addEntry 0 =
      Journal.net (ledger.postedLegs q) a := by
  rw [foldl_balance, zero_add, postedEntries, postedLegs]
  induction ledger.transactions.rows.filter fun t ↦ t.status = .posted with
  | nil => rfl
  | cons t rows ih =>
      have hswap : (t.entries.filter fun e ↦ e.accountId = a).filter q =
          (t.entries.filter q).filter fun e ↦ e.accountId = a := List.filter_comm _ _ _
      rw [List.flatMap_cons, List.filter_append, List.map_append, List.sum_append, ih,
        List.flatMap_cons, Journal.net_append, hswap, net_map_leg]

theorem accountBalanceWithin_eq_net (ledger : Ledger) (a : Uuid) :
    ledger.accountBalanceWithin a = Journal.net (ledger.postedLegs fun _ ↦ true) a := by
  rw [← foldl_postedEntries, List.filter_true]
  rfl

theorem nodup_accountIds (ledger : Ledger) : (ledger.accounts.rows.map (·.id)).Nodup :=
  ledger.accounts.nodup_map fun _ _ h ↦ .inl h

theorem mem_postedLegs {ledger : Ledger} {q : LedgerEntry → Bool} {l : Leg Uuid}
    (h : l ∈ ledger.postedLegs q) :
    ∃ t ∈ ledger.transactions.rows, ∃ e ∈ t.entries, q e = true ∧ e.leg = l := by
  obtain ⟨t, ht, hl⟩ := List.mem_flatMap.mp h
  obtain ⟨e, he, rfl⟩ := List.mem_map.mp hl
  obtain ⟨he, hq⟩ := List.mem_filter.mp he
  exact ⟨t, (List.mem_filter.mp ht).1, e, he, hq, rfl⟩

/-- Over accounts that cover the selected movements, balances add up to the movements' total. -/
theorem sum_net_accounts (ledger : Ledger) (q : LedgerEntry → Bool) (p : FinancialAccount → Bool)
    (hcover : ∀ t ∈ ledger.transactions.rows, ∀ e ∈ t.entries, q e = true →
      ∀ a ∈ ledger.accounts.rows, a.id = e.accountId → p a = true) :
    ((ledger.accounts.rows.filter p).map fun a ↦ Journal.net (ledger.postedLegs q) a.id).sum =
      Journal.total (ledger.postedLegs q) := by
  have hnd : ((ledger.accounts.rows.filter p).map (·.id)).Nodup :=
    ledger.nodup_accountIds.sublist (List.filter_sublist.map _)
  have hmap : (ledger.accounts.rows.filter p).map (fun a ↦ Journal.net (ledger.postedLegs q) a.id) =
      ((ledger.accounts.rows.filter p).map (·.id)).map (Journal.net (ledger.postedLegs q)) := by
    rw [List.map_map]
    rfl
  rw [hmap]
  refine Journal.sum_net hnd fun l hl ↦ ?_
  obtain ⟨t, ht, e, he, hq, rfl⟩ := mem_postedLegs hl
  obtain ⟨a, ha, hid⟩ := ledger.foreignKey t ht e he
  exact List.mem_map.mpr ⟨a, List.mem_filter.mpr ⟨ha, hcover t ht e he hq a ha hid⟩, hid⟩

/-- Whole transactions are balanced, and so is any selection of whole transactions. -/
theorem total_postedLegs {ledger : Ledger} (h : ∀ t ∈ ledger.transactions.rows, t.WellFormed)
    {q : LedgerEntry → Bool}
    (hq : ∀ t ∈ ledger.transactions.rows, (∀ e ∈ t.entries, q e = true) ∨
      ∀ e ∈ t.entries, q e = false) : Journal.total (ledger.postedLegs q) = 0 := by
  refine Journal.total_flatMap_eq_zero fun t ht ↦ ?_
  have ht := (List.mem_filter.mp ht).1
  rcases hq t ht with hall | hnone
  · rw [List.filter_eq_self.mpr hall]
    exact (balanced_iff_total t).mp (h t ht).balanced
  · rw [List.filter_eq_nil_iff.mpr fun e he ↦ by simp [hnone e he]]
    rfl

theorem whole_of_currency {ledger : Ledger} (h : ∀ t ∈ ledger.transactions.rows, t.WellFormed)
    (currency : String) : ∀ t ∈ ledger.transactions.rows,
      (∀ e ∈ t.entries, decide (e.currency = currency) = true) ∨
        ∀ e ∈ t.entries, decide (e.currency = currency) = false := by
  intro t ht
  by_cases hc : t.currency = currency
  · exact .inl fun e he ↦ by simp [(h t ht).currency e he, hc]
  · exact .inr fun e he ↦ by simp [(h t ht).currency e he, hc]

/-- The balances of all accounts add up to zero. -/
theorem sum_accountBalanceWithin {ledger : Ledger}
    (h : ∀ t ∈ ledger.transactions.rows, t.WellFormed) :
    (ledger.accounts.rows.map fun a ↦ ledger.accountBalanceWithin a.id).sum = 0 := by
  have hsum := ledger.sum_net_accounts (fun _ ↦ true) (fun _ ↦ true) fun _ _ _ _ _ _ _ _ ↦ rfl
  rw [List.filter_true, total_postedLegs h fun _ _ ↦ .inl fun _ _ ↦ rfl] at hsum
  simpa only [accountBalanceWithin_eq_net] using hsum

/-- So do, for each currency, the parts of them in that currency. -/
theorem sum_accountBalanceIn {ledger : Ledger}
    (h : ∀ t ∈ ledger.transactions.rows, t.WellFormed) (currency : String) :
    (ledger.accounts.rows.map fun a ↦ ledger.accountBalanceIn currency a.id).sum = 0 := by
  have hsum := ledger.sum_net_accounts (fun e ↦ e.currency = currency) (fun _ ↦ true)
    fun _ _ _ _ _ _ _ _ ↦ rfl
  rw [List.filter_true, total_postedLegs h (whole_of_currency h currency)] at hsum
  simpa only [accountBalanceIn, foldl_postedEntries] using hsum

/-- Every stored entry is on an account held in the transaction's currency. -/
def HeldInCurrency (ledger : Ledger) : Prop :=
  ∀ t ∈ ledger.transactions.rows, ∀ e ∈ t.entries, ∀ a ∈ ledger.accounts.rows,
    a.id = e.accountId → a.currency = t.currency

/-- Where accounts are only used in their own currency, the accounts held in one currency are
balanced among themselves. -/
theorem sum_accountBalanceWithin_held {ledger : Ledger}
    (h : ∀ t ∈ ledger.transactions.rows, t.WellFormed) (hheld : ledger.HeldInCurrency)
    (currency : String) :
    ((ledger.accounts.rows.filter fun a ↦ a.currency = currency).map
      fun a ↦ ledger.accountBalanceWithin a.id).sum = 0 := by
  have hsum := ledger.sum_net_accounts (fun e ↦ e.currency = currency)
    (fun a ↦ a.currency = currency) (by
      intro t ht e he hq a ha hid
      rw [hheld t ht e he a ha hid, ← (h t ht).currency e he]
      exact hq)
  rw [total_postedLegs h (whole_of_currency h currency)] at hsum
  rw [← hsum]
  refine congrArg List.sum (List.map_congr_left fun a ha ↦ ?_)
  obtain ⟨ha, hcur⟩ := List.mem_filter.mp ha
  -- On an account held in the currency, the entries in other currencies are none.
  have hfilter : (ledger.postedEntries a.id).filter (fun e ↦ e.currency = currency) =
      ledger.postedEntries a.id := by
    refine List.filter_eq_self.mpr fun e he ↦ ?_
    obtain ⟨t, ht, he⟩ := List.mem_flatMap.mp he
    obtain ⟨he, hid⟩ := List.mem_filter.mp he
    have ht := (List.mem_filter.mp ht).1
    have hac := hheld t ht e he a ha (by simpa using (of_decide_eq_true hid).symm)
    rw [(h t ht).currency e he, ← hac]
    exact hcur
  rw [← foldl_postedEntries, hfilter]
  rfl

/-! ## The law -/

/-- The idempotency key a call carries. -/
def Call.idempotencyKey : Call → String
  | .post _ command => command.idempotencyKey
  | .postWithin _ command => command.idempotencyKey
  | .reverse _ _ key _ => key

/-- A call that is rejected, or whose key has been used, leaves the ledger as it was. -/
theorem step_eq_self {ledger : Ledger} {call : Call}
    (h : (∃ e, call.result ledger = .error e) ∨
      ∃ t ∈ ledger.transactions.rows, t.idempotencyKey = call.idempotencyKey) :
    step ledger call = ledger := by
  rcases committed_cases ledger (call.result ledger) with hsame | ⟨ref, ledger', hres, hafter⟩
  · exact hsame
  · rcases h with ⟨e, he⟩ | ⟨t, ht, hkey⟩
    · rw [hres] at he
      cases he
    · have hpost : ∀ {id command}, command.idempotencyKey = call.idempotencyKey →
          ledger.postWithin id command = .ok (ref, ledger') → ledger' = ledger := by
        intro id command hk hp
        cases (postWithin_eq_ok hp).2 with
        | replayed _ _ _ _ same => exact same
        | appended fresh _ _ => exact absurd (hkey.trans hk.symm) (fresh t ht)
      rw [step, hafter]
      cases call with
      | post id command => exact hpost rfl (post_eq_ok hres)
      | postWithin id command => exact hpost rfl hres
      | reverse id originalId key reference =>
          obtain ⟨original, -, -, -, hrev⟩ := reverse_eq_ok hres
          cases hrev with
          | replayed _ _ _ same => exact same
          | appended _ fresh _ _ => exact absurd hkey (fresh t ht)

/-- **Trial balance.**  From a ledger with any accounts and no transactions, whatever calls of
`post`, `postWithin` and `reverse` are made: every stored transaction has at least two entries,
positive amounts, one currency and equal debits and credits; the balances of all accounts add up
to zero, for each currency the parts of them in that currency do, and so do the balances of the
accounts held in it where accounts are used in their own currency only; and a call that is
rejected or replayed changes no balance. -/
theorem trial_balance {ledger₀ ledger : Ledger} (h₀ : ledger₀.transactions.rows = [])
    (h : Reaches step anyCall ledger₀ ledger) :
    (∀ t ∈ ledger.transactions.rows, t.WellFormed) ∧
      (ledger.accounts.rows.map fun a ↦ ledger.accountBalanceWithin a.id).sum = 0 ∧
      (∀ currency,
        (ledger.accounts.rows.map fun a ↦ ledger.accountBalanceIn currency a.id).sum = 0) ∧
      (ledger.HeldInCurrency → ∀ currency,
        ((ledger.accounts.rows.filter fun a ↦ a.currency = currency).map
          fun a ↦ ledger.accountBalanceWithin a.id).sum = 0) ∧
      ∀ call : Call, ((∃ e, call.result ledger = .error e) ∨
          ∃ t ∈ ledger.transactions.rows, t.idempotencyKey = call.idempotencyKey) →
        ∀ a, (step ledger call).accountBalanceWithin a = ledger.accountBalanceWithin a := by
  have hwf := wellFormed_of_reaches h₀ h
  refine ⟨hwf, sum_accountBalanceWithin hwf, sum_accountBalanceIn hwf,
    fun hheld ↦ sum_accountBalanceWithin_held hwf hheld, ?_⟩
  intro call hcall a
  rw [step_eq_self hcall]

/-- An account of a ledger with a wallet and a provider, in naira. -/
def sampleAccount (n : Nat) (purpose : FinancialAccountPurpose) : FinancialAccount where
  id := .ofNat n
  code := if n = 1 then "WALLET:1:AVAILABLE" else "PROVIDER_PAYABLE:NGN"
  name := "sample"
  type := .liability
  purpose := some purpose
  currency := "NGN"
  walletId := none
  isActive := true
  purpose_eq := by
    split
    · exact .inl (by decide)
    · exact .inl (by decide)

/-- A ledger with two accounts and no transactions. -/
def sampleLedger : Ledger where
  accounts := ⟨[sampleAccount 1 .walletAvailable, sampleAccount 2 .providerPayable], by decide⟩
  transactions := .empty
  foreignKey := by simp

/-- A deposit of one naira from the provider into the wallet. -/
def sampleDeposit : LedgerPostingCommand where
  idempotencyKey := "deposit"
  reference := "DEP-1"
  description := "Wallet deposit"
  currency := "NGN"
  initiatedByUserId := none
  correlationId := none
  entries := [⟨.ofNat 2, .debit, 100⟩, ⟨.ofNat 1, .credit, 100⟩]

/-- The ledger after a deposit, its replay and its reversal. -/
def sampleHistory : Ledger :=
  [Call.post (.ofNat 10) sampleDeposit, .postWithin (.ofNat 11) sampleDeposit,
    .reverse (.ofNat 12) (.ofNat 10) "undo" "UNDO-1"].foldl step sampleLedger

theorem trial_balance_sample :
    sampleHistory.transactions.rows.length = 2 ∧
      (∀ t ∈ sampleHistory.transactions.rows, t.WellFormed) ∧
      (sampleHistory.accounts.rows.map fun a ↦ sampleHistory.accountBalanceWithin a.id).sum = 0 :=
  have h := trial_balance rfl (reaches_foldl step sampleLedger
    [Call.post (.ofNat 10) sampleDeposit, .postWithin (.ofNat 11) sampleDeposit,
      .reverse (.ofNat 12) (.ofNat 10) "undo" "UNDO-1"])
  ⟨by decide +kernel, h.1, h.2.1⟩

end AjoCloud.Ledger
