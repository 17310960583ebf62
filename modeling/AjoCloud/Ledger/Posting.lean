import AjoCloud.Ledger.Basic

/-!
# What the ledger's operations do

One lemma per operation says what it did when it returned, guards included; another says what it
did to balances.  The rest of the development cites these and never unfolds the operations.
-/

namespace AjoCloud.Ledger

open Lib

/-! ## Balanced commands -/

/-- The movement a line of a command asks for. -/
def LedgerPostingEntry.leg (e : LedgerPostingEntry) : Leg Uuid :=
  ⟨e.accountId, e.direction.signed e.amountMinor⟩

/-- The movements a command asks for. -/
def LedgerPostingCommand.legs (command : LedgerPostingCommand) : List (Leg Uuid) :=
  command.entries.map (·.leg)

/-- A command that `assertBalancedPosting` lets through. -/
structure LedgerPostingCommand.Balanced (command : LedgerPostingCommand) : Prop where
  /-- There are at least two entries. -/
  two_le : 2 ≤ command.entries.length
  /-- The currency is a three-letter uppercase code. -/
  currency : isCurrencyCode command.currency = true
  /-- Every amount is positive. -/
  pos : ∀ e ∈ command.entries, 0 < e.amountMinor
  /-- Debits and credits cancel. -/
  total : Journal.total command.legs = 0

theorem sumEntries_eq_ok {entries : List LedgerPostingEntry} {d c : Int} {sums : Int × Int}
    (h : sumEntries entries d c = .ok sums) :
    (∀ e ∈ entries, 0 < e.amountMinor) ∧
      Journal.total (entries.map (·.leg)) = (sums.2 - c) - (sums.1 - d) := by
  induction entries generalizing d c with
  | nil =>
      rw [sumEntries, Except.ok.injEq] at h
      subst h
      exact ⟨by simp, by simp⟩
  | cons e entries ih =>
      rw [sumEntries] at h
      split at h
      · cases h
      · next hpos =>
          rw [List.map_cons, Journal.total_cons]
          cases hd : e.direction with
          | debit =>
              simp only [hd] at h
              obtain ⟨hall, htotal⟩ := ih h
              refine ⟨List.forall_mem_cons.mpr ⟨by omega, hall⟩, ?_⟩
              rw [htotal, LedgerPostingEntry.leg, hd, EntryDirection.signed_debit]
              ring
          | credit =>
              simp only [hd] at h
              obtain ⟨hall, htotal⟩ := ih h
              refine ⟨List.forall_mem_cons.mpr ⟨by omega, hall⟩, ?_⟩
              rw [htotal, LedgerPostingEntry.leg, hd, EntryDirection.signed_credit]
              ring

/-- What is let through is balanced. -/
theorem balanced_of_assertBalancedPosting {command : LedgerPostingCommand} {u : Unit}
    (h : assertBalancedPosting command = .ok u) : command.Balanced := by
  simp only [assertBalancedPosting, bind_eq_ok, require_eq_ok, exists_const] at h
  obtain ⟨hlen, hcur, sums, hsums, heq⟩ := h
  obtain ⟨hpos, htotal⟩ := sumEntries_eq_ok hsums
  refine ⟨by omega, hcur, hpos, ?_⟩
  rw [LedgerPostingCommand.legs, htotal, heq]
  ring

/-! ## Statements -/

/-- What `ledgerTransaction.create` did when it returned. -/
theorem createTransaction_eq_ok {ledger ledger' : Ledger} {t : LedgerTransaction}
    (h : ledger.createTransaction t = .ok ledger') :
    t.fits ∧ (∀ e ∈ t.entries, ∃ a ∈ ledger.accounts.rows, a.id = e.accountId) ∧
      (∀ u ∈ ledger.transactions.rows, ¬ Schema.Clash u t) ∧
      ledger'.accounts = ledger.accounts ∧
      ledger'.transactions.rows = ledger.transactions.rows ++ [t] := by
  unfold createTransaction at h
  split at h
  · next hfits =>
      split at h
      · next hfk =>
          split at h
          · cases h
          · next transactions hins =>
              obtain ⟨hfresh, hrows⟩ := Table.insert_eq_some.mp hins
              cases h
              exact ⟨hfits, hfk, hfresh, rfl, hrows⟩
      · cases h
  · cases h

/-- `ledgerTransaction.create` fails for no other reasons than these. -/
theorem exists_createTransaction_iff {ledger : Ledger} {t : LedgerTransaction} :
    (∃ ledger', ledger.createTransaction t = .ok ledger') ↔
      t.fits ∧ (∀ e ∈ t.entries, ∃ a ∈ ledger.accounts.rows, a.id = e.accountId) ∧
        ∀ u ∈ ledger.transactions.rows, ¬ Schema.Clash u t := by
  constructor
  · rintro ⟨ledger', h⟩
    obtain ⟨hfits, hfk, hfresh, -, -⟩ := createTransaction_eq_ok h
    exact ⟨hfits, hfk, hfresh⟩
  · rintro ⟨hfits, hfk, hfresh⟩
    unfold createTransaction
    rw [dif_pos hfits, dif_pos hfk]
    split
    · next hnone =>
        rw [Table.insert, dif_pos hfresh] at hnone
        cases hnone
    · exact ⟨_, rfl⟩

/-- A command's transaction clashes with those that have its identifier, its reference or its key. -/
theorem clash_postedTransaction_iff {t : LedgerTransaction} {id : Uuid}
    {command : LedgerPostingCommand} : Schema.Clash t (postedTransaction id command) ↔
      (t.id = id ∨ t.reference = command.reference) ∨ t.idempotencyKey = command.idempotencyKey := by
  constructor
  · rintro (((heq | ⟨-, heq⟩) | ⟨-, heq⟩) | ⟨hsome, heq⟩)
    · exact .inl (.inl heq)
    · exact .inl (.inr (Option.some.inj heq))
    · exact .inr (Option.some.inj heq)
    · rw [heq] at hsome
      cases hsome
  · rintro ((heq | heq) | heq)
    · exact .inl (.inl (.inl heq))
    · exact .inl (.inl (.inr ⟨rfl, congrArg some heq⟩))
    · exact .inl (.inr ⟨rfl, congrArg some heq⟩)

/-- What `financialAccount.create` did when it returned. -/
theorem createAccount_eq_ok {ledger ledger' : Ledger} {a : FinancialAccount}
    (h : ledger.createAccount a = .ok ledger') :
    (∀ b ∈ ledger.accounts.rows, ¬ Schema.Clash b a) ∧
      ledger'.accounts.rows = ledger.accounts.rows ++ [a] ∧
      ledger'.transactions = ledger.transactions := by
  unfold createAccount at h
  split at h
  · split at h
    · cases h
    · next accounts hins =>
        obtain ⟨hfresh, hrows⟩ := Table.insert_eq_some.mp hins
        cases h
        exact ⟨hfresh, hrows, rfl⟩
  · cases h

/-- `financialAccount.create` fails for no other reasons than these. -/
theorem exists_createAccount_iff {ledger : Ledger} {a : FinancialAccount} :
    (∃ ledger', ledger.createAccount a = .ok ledger') ↔
      (fitsVarChar 80 a.code ∧ fitsVarChar 160 a.name ∧ fitsVarChar 3 a.currency) ∧
        ∀ b ∈ ledger.accounts.rows, ¬ Schema.Clash b a := by
  unfold createAccount
  constructor
  · rintro ⟨ledger', h⟩
    split at h
    · next hfits =>
        split at h
        · cases h
        · next accounts hins => exact ⟨hfits, (Table.insert_eq_some.mp hins).1⟩
    · cases h
  · rintro ⟨hfits, hfresh⟩
    rw [if_pos hfits]
    split
    · next hnone =>
        rw [Table.insert, dif_pos hfresh] at hnone
        cases hnone
    · exact ⟨_, rfl⟩

@[simp] theorem accounts_setStatus (ledger : Ledger) (id : Uuid) (s : LedgerTransactionStatus) :
    (ledger.setStatus id s).accounts = ledger.accounts := rfl

@[simp] theorem rows_setStatus (ledger : Ledger) (id : Uuid) (s : LedgerTransactionStatus) :
    (ledger.setStatus id s).transactions.rows =
      ledger.transactions.rows.map fun t ↦ if t.id = id then { t with status := s } else t := by
  simp [setStatus]

/-- A lookup by key finds the transaction that has the key. -/
theorem byKey_eq_some {ledger : Ledger} {key : String} {t : LedgerTransaction}
    (h : ledger.byKey key = some t) : t ∈ ledger.transactions.rows ∧ t.idempotencyKey = key :=
  ⟨Table.mem_of_find? h, by simpa using Table.prop_of_find? h⟩

theorem byKey_eq_none {ledger : Ledger} {key : String} (h : ledger.byKey key = none)
    {t : LedgerTransaction} (ht : t ∈ ledger.transactions.rows) : t.idempotencyKey ≠ key := by
  simpa using Table.not_of_find?_eq_none h ht

/-! ## Posting and reversing -/

/-- What a posting did to the ledger: a replayed key changed nothing, a fresh one appended the
command's transaction. -/
inductive Posted (ledger : Ledger) (id : Uuid) (command : LedgerPostingCommand)
    (ref : LedgerReference) (ledger' : Ledger) : Prop
  | /-- The key was there already. -/
    replayed (existing : LedgerTransaction)
      (mem : existing ∈ ledger.transactions.rows)
      (key : existing.idempotencyKey = command.idempotencyKey)
      (ref_eq : ref = ⟨existing.id, existing.reference⟩)
      (same : ledger' = ledger)
  | /-- The key is fresh and the transaction was stored. -/
    appended
      (fresh : ∀ t ∈ ledger.transactions.rows, t.idempotencyKey ≠ command.idempotencyKey)
      (created : ledger.createTransaction (postedTransaction id command) = .ok ledger')
      (ref_eq : ref = ⟨id, command.reference⟩)

/-- Whatever `postWithin` returns, the command was balanced and either replayed or stored. -/
theorem postWithin_eq_ok {ledger ledger' : Ledger} {id : Uuid} {command : LedgerPostingCommand}
    {ref : LedgerReference} (h : ledger.postWithin id command = .ok (ref, ledger')) :
    command.Balanced ∧ Posted ledger id command ref ledger' := by
  rw [postWithin, bind_eq_ok] at h
  obtain ⟨u, hassert, h⟩ := h
  refine ⟨balanced_of_assertBalancedPosting hassert, ?_⟩
  split at h
  · next existing hfind =>
      rw [pure_eq_ok, Prod.mk.injEq] at h
      obtain ⟨rfl, rfl⟩ := h
      obtain ⟨hmem, hkey⟩ := byKey_eq_some hfind
      exact .replayed existing hmem hkey rfl rfl
  · next hnone =>
      rw [bind_eq_ok] at h
      obtain ⟨created, hcreated, h⟩ := h
      rw [pure_eq_ok, Prod.mk.injEq] at h
      obtain ⟨rfl, rfl⟩ := h
      exact .appended (fun t ht ↦ byKey_eq_none hnone ht) hcreated rfl

/-- Once `postWithin` has returned, the transaction it names is in the ledger under its key. -/
theorem exists_key_of_postWithin {ledger ledger' : Ledger} {id : Uuid}
    {command : LedgerPostingCommand} {ref : LedgerReference}
    (h : ledger.postWithin id command = .ok (ref, ledger')) :
    ∃ t ∈ ledger'.transactions.rows, t.id = ref.id ∧
      t.idempotencyKey = command.idempotencyKey := by
  cases (postWithin_eq_ok h).2 with
  | replayed existing mem key answer same => exact ⟨existing, same ▸ mem, answer ▸ rfl, key⟩
  | appended _ created answer =>
      refine ⟨postedTransaction id command, ?_, answer ▸ rfl, rfl⟩
      rw [(createTransaction_eq_ok created).2.2.2.2]
      exact List.mem_append_right _ (List.mem_singleton_self _)

/-- `postWithin` answers when the command is balanced and its key is taken or its transaction can be
stored. -/
theorem exists_postWithin_iff {ledger : Ledger} {id : Uuid} {command : LedgerPostingCommand} :
    (∃ r, ledger.postWithin id command = .ok r) ↔
      assertBalancedPosting command = .ok () ∧
        ((∃ t, ledger.byKey command.idempotencyKey = some t) ∨
          ledger.byKey command.idempotencyKey = none ∧
            ∃ ledger', ledger.createTransaction (postedTransaction id command) = .ok ledger') := by
  rw [postWithin]
  cases ledger.byKey command.idempotencyKey with
  | some existing =>
      simp only [bind_eq_ok, pure_eq_ok]
      constructor
      · rintro ⟨r, u, hassert, -⟩
        exact ⟨hassert, .inl ⟨existing, rfl⟩⟩
      · rintro ⟨hassert, -⟩
        exact ⟨_, (), hassert, rfl⟩
  | none =>
      simp only [bind_eq_ok, pure_eq_ok]
      constructor
      · rintro ⟨r, u, hassert, ledger', hcreate, -⟩
        exact ⟨hassert, .inr ⟨trivial, ledger', hcreate⟩⟩
      · rintro ⟨hassert, ⟨t, ht⟩ | ⟨-, ledger', hcreate⟩⟩
        · cases ht
        · exact ⟨_, (), hassert, ledger', hcreate, rfl⟩

/-- The identifier that `postWithin` hands back is that of the transaction under the key, or the new
one. -/
theorem id_of_postWithin {ledger ledger' : Ledger} {id : Uuid} {command : LedgerPostingCommand}
    {ref : LedgerReference} (h : ledger.postWithin id command = .ok (ref, ledger')) :
    ref.id = ((ledger.byKey command.idempotencyKey).map (·.id)).getD id := by
  rw [postWithin, bind_eq_ok] at h
  obtain ⟨u, -, h⟩ := h
  cases hkey : ledger.byKey command.idempotencyKey with
  | some existing =>
      rw [hkey, pure_eq_ok, Prod.mk.injEq] at h
      exact h.1 ▸ rfl
  | none =>
      simp only [hkey, bind_eq_ok, pure_eq_ok, Prod.mk.injEq] at h
      obtain ⟨created, -, rfl, -⟩ := h
      rfl

theorem post_eq_ok {ledger ledger' : Ledger} {id : Uuid} {command : LedgerPostingCommand}
    {ref : LedgerReference} (h : ledger.post id command = .ok (ref, ledger')) :
    ledger.postWithin id command = .ok (ref, ledger') := by
  rw [post, bind_eq_ok] at h
  obtain ⟨_, -, h⟩ := h
  exact h

/-- What a reversal did to the ledger. -/
inductive Reversed (ledger : Ledger) (id : Uuid) (original : LedgerTransaction)
    (key reference : String) (ref : LedgerReference) (ledger' : Ledger) : Prop
  | /-- The key was there already. -/
    replayed (existing : LedgerTransaction)
      (mem : existing ∈ ledger.transactions.rows)
      (key_eq : existing.idempotencyKey = key)
      (same : ledger' = ledger)
  | /-- The reversal was stored and the original marked. -/
    appended (created : Ledger)
      (fresh : ∀ t ∈ ledger.transactions.rows, t.idempotencyKey ≠ key)
      (create : ledger.createTransaction (reversalTransaction id original key reference)
        = .ok created)
      (marked : ledger' = created.setStatus original.id .reversed)

/-- Whatever `reverse` returns, the original was posted and the reversal replayed or stored. -/
theorem reverse_eq_ok {ledger ledger' : Ledger} {id originalId : Uuid} {key reference : String}
    {ref : LedgerReference}
    (h : ledger.reverse id originalId key reference = .ok (ref, ledger')) :
    ∃ original ∈ ledger.transactions.rows, original.id = originalId ∧
      original.status = .posted ∧ Reversed ledger id original key reference ref ledger' := by
  rw [reverse, orThrow_bind_eq_ok] at h
  obtain ⟨original, hfind, h⟩ := h
  rw [require_bind_eq_ok] at h
  obtain ⟨hposted, h⟩ := h
  refine ⟨original, Table.mem_of_find? hfind, by simpa using Table.prop_of_find? hfind, hposted, ?_⟩
  split at h
  · next existing hkey =>
      rw [pure_eq_ok, Prod.mk.injEq] at h
      obtain ⟨hmem, hk⟩ := byKey_eq_some hkey
      exact .replayed existing hmem hk h.2.symm
  · next hnone =>
      rw [bind_eq_ok] at h
      obtain ⟨created, hcreated, h⟩ := h
      rw [pure_eq_ok, Prod.mk.injEq] at h
      exact .appended created (fun t ht ↦ byKey_eq_none hnone ht) hcreated h.2.symm

/-! ## Balances -/

/-- What one transaction does to an account. -/
def LedgerTransaction.net (t : LedgerTransaction) (accountId : Uuid) : Int :=
  Journal.net t.legs accountId

theorem foldl_balance (entries : List LedgerEntry) (b : Int) :
    entries.foldl addEntry b =
      b + (entries.map fun e ↦ e.direction.signed e.amountMinor).sum := by
  induction entries generalizing b with
  | nil => simp
  | cons e entries ih =>
      rw [List.foldl_cons, ih, List.map_cons, List.sum_cons, addEntry]
      cases e.direction with
      | debit => simp only [EntryDirection.signed_debit]; ring
      | credit => simp only [EntryDirection.signed_credit]; ring

theorem net_map_leg (entries : List LedgerEntry) (a : Uuid) :
    ((entries.filter fun e ↦ e.accountId = a).map fun e ↦ e.direction.signed e.amountMinor).sum =
      Journal.net (entries.map (·.leg)) a := by
  induction entries with
  | nil => rfl
  | cons e entries ih =>
      rw [List.map_cons, Journal.net_cons, ← ih, List.filter_cons]
      by_cases ha : e.accountId = a
      · simp [ha, LedgerEntry.leg]
      · simp [ha, LedgerEntry.leg]

/-- The balance of an account is the net movement of the posted transactions on it. -/
theorem accountBalanceWithin_eq (ledger : Ledger) (a : Uuid) :
    ledger.accountBalanceWithin a =
      sumWhere ledger.transactions.rows (fun t ↦ t.status = .posted) (·.net a) := by
  rw [accountBalanceWithin, foldl_balance, zero_add, postedEntries, sumWhere]
  induction ledger.transactions.rows.filter fun t ↦ t.status = .posted with
  | nil => rfl
  | cons t rows ih =>
      rw [List.flatMap_cons, List.map_append, List.sum_append, ih, List.map_cons, List.sum_cons,
        net_map_leg]
      rfl

/-- Storing a posted transaction moves every balance by the transaction's net movement. -/
theorem accountBalanceWithin_createTransaction {ledger ledger' : Ledger} {t : LedgerTransaction}
    (h : ledger.createTransaction t = .ok ledger') (ht : t.status = .posted) (a : Uuid) :
    ledger'.accountBalanceWithin a = ledger.accountBalanceWithin a + t.net a := by
  obtain ⟨-, -, -, -, hrows⟩ := createTransaction_eq_ok h
  rw [accountBalanceWithin_eq, accountBalanceWithin_eq, hrows, sumWhere_concat]
  simp [ht]

/-- Balances depend on the transactions only. -/
theorem accountBalanceWithin_congr {ledger ledger' : Ledger}
    (h : ledger'.transactions = ledger.transactions) (a : Uuid) :
    ledger'.accountBalanceWithin a = ledger.accountBalanceWithin a := by
  rw [accountBalanceWithin_eq, accountBalanceWithin_eq, h]

/-- The line that an entry was numbered from. -/
def LedgerEntry.line (e : LedgerEntry) : LedgerPostingEntry :=
  ⟨e.accountId, e.direction, e.amountMinor⟩

theorem map_numberEntries (currency : String) (n : Nat) (entries : List LedgerPostingEntry) :
    (numberEntries currency n entries).map (·.line) = entries := by
  induction entries generalizing n with
  | nil => rfl
  | cons e entries ih => rw [numberEntries, List.map_cons, ih]; rfl

theorem line_mem_of_mem_numberEntries {currency : String} {n : Nat}
    {entries : List LedgerPostingEntry} {e : LedgerEntry} (h : e ∈ numberEntries currency n entries) :
    e.line ∈ entries := by
  rw [← map_numberEntries currency n entries]
  exact List.mem_map_of_mem h

theorem legs_numberEntries (currency : String) (n : Nat) (entries : List LedgerPostingEntry) :
    (numberEntries currency n entries).map (·.leg) = entries.map (·.leg) := by
  conv_rhs => rw [← map_numberEntries currency n entries]
  rw [List.map_map]
  rfl

/-- A stored command makes the movements the command asks for. -/
@[simp] theorem legs_postedTransaction (id : Uuid) (command : LedgerPostingCommand) :
    (postedTransaction id command).legs = command.legs := legs_numberEntries _ _ _

theorem legs_reverseEntries (n : Nat) (entries : List LedgerEntry) :
    (reverseEntries n entries).map (·.leg) = Journal.undo (entries.map (·.leg)) := by
  induction entries generalizing n with
  | nil => rfl
  | cons e entries ih =>
      rw [reverseEntries, List.map_cons, ih, List.map_cons, Journal.undo, Journal.undo,
        List.map_cons]
      simp [LedgerEntry.leg]

/-- A reversal undoes the net movement of its original on every account. -/
theorem net_reversalTransaction (id : Uuid) (original : LedgerTransaction) (key ref : String)
    (a : Uuid) : (reversalTransaction id original key ref).net a = -original.net a := by
  have hperm := (List.perm_insertionSort (fun a b : LedgerEntry ↦ a.sequence ≤ b.sequence)
    original.entries).map (·.leg)
  calc (reversalTransaction id original key ref).net a
      = Journal.net (Journal.undo ((original.entries.insertionSort
          fun a b ↦ a.sequence ≤ b.sequence).map (·.leg))) a := by
        rw [← legs_reverseEntries 0]; rfl
    _ = -original.net a := by
        rw [Journal.net_undo, Journal.net_perm hperm]; rfl

end AjoCloud.Ledger
