import AjoCloud.Ledger.TrialBalance

/-!
# Reversals

`reverse` stores the opposite of a transaction *and* marks the transaction as reversed, while a
balance counts posted transactions only.  Each of the two alone would undo the transaction; both
together undo it twice.
-/

namespace AjoCloud.Ledger

open Lib

/-- The ledger in which the transaction had never been posted. -/
def without (ledger : Ledger) (id : Uuid) : Ledger where
  accounts := ledger.accounts
  transactions := ledger.transactions.delete fun t ↦ t.id = id
  foreignKey := fun t ht ↦ ledger.foreignKey t (List.mem_of_mem_filter ht)

/-- Transactions with the same identifier are the same. -/
theorem eq_of_id {ledger : Ledger} {t u : LedgerTransaction} (ht : t ∈ ledger.transactions.rows)
    (hu : u ∈ ledger.transactions.rows) (h : t.id = u.id) : t = u :=
  ledger.transactions.eq_of_clash ht hu (.inl (.inl (.inl h)))

/-- Had a posted transaction not been there, every balance would be without its movement. -/
theorem accountBalanceWithin_without {ledger : Ledger} {t : LedgerTransaction}
    (ht : t ∈ ledger.transactions.rows) (hposted : t.status = .posted) (a : Uuid) :
    (ledger.without t.id).accountBalanceWithin a = ledger.accountBalanceWithin a - t.net a := by
  rw [accountBalanceWithin_eq, accountBalanceWithin_eq, without, Table.rows_delete,
    sumWhere_filter]
  rw [sumWhere_change ledger.transactions.nodup ht
    (p := fun u ↦ decide (u.status = .posted)) (f := (·.net a))]
  · simp [hposted]
    ring
  · intro u hu hne
    have hid : u.id ≠ t.id := fun h ↦ hne (eq_of_id hu ht h)
    simp [hid]

/-- Marking a posted transaction as reversed takes its movement out of every balance. -/
theorem accountBalanceWithin_setStatus {ledger : Ledger} {t : LedgerTransaction}
    (ht : t ∈ ledger.transactions.rows) (hposted : t.status = .posted) (a : Uuid) :
    (ledger.setStatus t.id .reversed).accountBalanceWithin a =
      ledger.accountBalanceWithin a - t.net a := by
  rw [accountBalanceWithin_eq, accountBalanceWithin_eq, rows_setStatus, sumWhere_map]
  rw [sumWhere_change ledger.transactions.nodup ht
    (p := fun u ↦ decide (u.status = .posted)) (f := (·.net a))]
  · simp [hposted]
    ring
  · intro u hu hne
    have hid : u.id ≠ t.id := fun h ↦ hne (eq_of_id hu ht h)
    simp [hid]

/-- A reversal under a fresh key takes the original's movement out of every balance twice. -/
theorem accountBalanceWithin_reverse {ledger ledger' : Ledger} {t : LedgerTransaction}
    (ht : t ∈ ledger.transactions.rows) {id : Uuid} {key reference : String}
    (hfresh : ∀ u ∈ ledger.transactions.rows, u.idempotencyKey ≠ key) {ref : LedgerReference}
    (h : ledger.reverse id t.id key reference = .ok (ref, ledger')) (a : Uuid) :
    ledger'.accountBalanceWithin a = ledger.accountBalanceWithin a - 2 * t.net a := by
  obtain ⟨original, hmem, hid, hposted, hrev⟩ := reverse_eq_ok h
  obtain rfl := eq_of_id hmem ht hid
  cases hrev with
  | replayed existing hex hkey _ => exact absurd hkey (hfresh existing hex)
  | appended created _ hcreate hmarked =>
      have hmem' : original ∈ created.transactions.rows := by
        rw [(createTransaction_eq_ok hcreate).2.2.2.2]
        exact List.mem_append_left _ hmem
      rw [hmarked, accountBalanceWithin_setStatus hmem' hposted,
        accountBalanceWithin_createTransaction hcreate rfl, net_reversalTransaction]
      ring

/-- **When a reversal restores balances.**  After a posted transaction is reversed under a fresh
key, an account's balance is what it would be had the transaction never been posted exactly when
the transaction's debits and credits to the account cancel. -/
theorem reverse_restores_iff {ledger ledger' : Ledger} {t : LedgerTransaction}
    (ht : t ∈ ledger.transactions.rows) (hposted : t.status = .posted) {id : Uuid}
    {key reference : String}
    (hfresh : ∀ u ∈ ledger.transactions.rows, u.idempotencyKey ≠ key) {ref : LedgerReference}
    (h : ledger.reverse id t.id key reference = .ok (ref, ledger')) (a : Uuid) :
    ledger'.accountBalanceWithin a = (ledger.without t.id).accountBalanceWithin a ↔
      t.net a = 0 := by
  rw [accountBalanceWithin_reverse ht hfresh h, accountBalanceWithin_without ht hposted]
  omega

/-- What a reversal leaves in the ledger: the original is marked, the reversal is added, and the rest
stays. -/
theorem mem_of_reversed {ledger ledger' created : Ledger} {t : LedgerTransaction} {id : Uuid}
    {key reference : String} (ht : t ∈ ledger.transactions.rows)
    (hcreate : ledger.createTransaction (reversalTransaction id t key reference) = .ok created)
    (hmarked : ledger' = created.setStatus t.id .reversed) {u : LedgerTransaction} :
    u ∈ ledger'.transactions.rows ↔ (u ∈ ledger.transactions.rows ∧ u.id ≠ t.id) ∨
      u = { t with status := .reversed } ∨ u = reversalTransaction id t key reference := by
  obtain ⟨-, -, hfresh, -, hrows⟩ := createTransaction_eq_ok hcreate
  have hne : (reversalTransaction id t key reference).id ≠ t.id :=
    fun heq ↦ hfresh t ht (.inl (.inl (.inl heq.symm)))
  rw [hmarked, rows_setStatus, hrows, List.mem_map]
  constructor
  · rintro ⟨u₀, hu₀, rfl⟩
    rcases List.mem_append.mp hu₀ with hu₀ | hu₀
    · by_cases heq : u₀.id = t.id
      · rw [if_pos heq, eq_of_id hu₀ ht heq]
        exact .inr (.inl rfl)
      · rw [if_neg heq]
        exact .inl ⟨hu₀, heq⟩
    · rw [List.mem_singleton.mp hu₀, if_neg hne]
      exact .inr (.inr rfl)
  · rintro (⟨hu, heq⟩ | rfl | rfl)
    · exact ⟨u, List.mem_append_left _ hu, if_neg heq⟩
    · exact ⟨t, List.mem_append_left _ ht, if_pos rfl⟩
    · exact ⟨_, List.mem_append_right _ (List.mem_singleton_self _), if_neg hne⟩

/-! ## When it is accepted -/

theorem fits_reversalTransaction {t : LedgerTransaction} (h : t.fits) (id : Uuid)
    {key reference : String} (hkey : fitsVarChar 128 key) (hreference : fitsVarChar 80 reference) :
    (reversalTransaction id t key reference).fits := by
  obtain ⟨href, -, -, hcurrency, -, hamounts⟩ := h
  refine ⟨hreference, hkey, ?_, hcurrency, fun c hc ↦ ?_, fun e he ↦ ?_⟩
  · have hhead : "Reversal of ".length = 12 := by decide +kernel
    rw [fitsVarChar] at href
    rw [fitsVarChar, reversalTransaction, String.length_append, hhead]
    omega
  · cases hc
  · obtain ⟨e₀, he₀, -, hamount, -⟩ := mem_reverseEntries he
    exact hamount ▸ hamounts e₀ ((List.mem_insertionSort _).mp he₀)

/-- Under a new identifier and a new key, a posted transaction that was not reversed yet is reversed
exactly when the reference is new. -/
theorem exists_reverse_iff {ledger : Ledger} {t : LedgerTransaction}
    (ht : t ∈ ledger.transactions.rows) (hposted : t.status = .posted) (hfits : t.fits)
    (hunreversed : ∀ u ∈ ledger.transactions.rows, u.reversalOfId ≠ some t.id) {id : Uuid}
    (hid : ∀ u ∈ ledger.transactions.rows, u.id ≠ id) {key reference : String}
    (hkey : ∀ u ∈ ledger.transactions.rows, u.idempotencyKey ≠ key)
    (hfitsKey : fitsVarChar 128 key) (hfitsReference : fitsVarChar 80 reference) :
    (∃ r, ledger.reverse id t.id key reference = .ok r) ↔
      ∀ u ∈ ledger.transactions.rows, u.reference ≠ reference := by
  constructor
  · rintro ⟨⟨ref, ledger'⟩, h⟩ u hu heq
    obtain ⟨original, -, -, -, hreversed⟩ := reverse_eq_ok h
    cases hreversed with
    | replayed existing hmem hexisting _ => exact hkey existing hmem hexisting
    | appended created _ hcreate _ =>
        obtain ⟨-, -, hfresh, -, -⟩ := createTransaction_eq_ok hcreate
        exact hfresh u hu (.inl (.inl (.inr ⟨rfl, congrArg some heq⟩)))
  · intro hreference
    have hfind : (ledger.transactions.find? fun u ↦ u.id = t.id) = some t :=
      ledger.transactions.find?_eq_some_of_mem ht (decide_eq_true rfl)
        fun x _ hx ↦ .inl (.inl (.inl (of_decide_eq_true hx)))
    have hnone : ledger.byKey key = none := by
      rw [byKey, Table.find?, List.find?_eq_none]
      intro u hu heq
      exact hkey u hu (of_decide_eq_true heq)
    have hcreate : ∃ created, ledger.createTransaction (reversalTransaction id t key reference) =
        .ok created := by
      refine exists_createTransaction_iff.mpr
        ⟨fits_reversalTransaction hfits id hfitsKey hfitsReference, fun e he ↦ ?_, ?_⟩
      · obtain ⟨e₀, he₀, haccount, -⟩ := mem_reverseEntries he
        rw [← haccount]
        exact ledger.foreignKey t ht e₀ ((List.mem_insertionSort _).mp he₀)
      · rintro u hu (((heq | ⟨-, heq⟩) | ⟨-, heq⟩) | ⟨-, heq⟩)
        · exact hid u hu heq
        · exact hreference u hu (Option.some.inj heq)
        · exact hkey u hu (Option.some.inj heq)
        · exact hunreversed u hu heq
    obtain ⟨created, hcreate⟩ := hcreate
    refine ⟨(⟨id, reference⟩, created.setStatus t.id .reversed), ?_⟩
    rw [reverse, bind_of_eq_ok (orThrow_eq_ok.mpr hfind), bind_of_eq_ok (require_of hposted), hnone]
    exact bind_of_eq_ok hcreate

/-! ## A deposit and its reversal -/

/-- The ledger after the deposit. -/
def sampleDeposited : Ledger := step sampleLedger (.post (.ofNat 10) sampleDeposit)

/-- The stored deposit. -/
def sampleTransaction : LedgerTransaction := postedTransaction (.ofNat 10) sampleDeposit

/-- The ledger after the deposit and its reversal. -/
def sampleReversed : Ledger :=
  step sampleDeposited (.reverse (.ofNat 12) (.ofNat 10) "undo" "UNDO-1")

theorem sampleReversed_eq_ok :
    sampleDeposited.reverse (.ofNat 12) sampleTransaction.id "undo" "UNDO-1" =
      .ok (⟨.ofNat 12, "UNDO-1"⟩, sampleReversed) :=
  eq_ok_committed sampleDeposited (by decide +kernel)

/-- A deposit that goes back to the provider in the same posting. -/
def sampleReturned : LedgerPostingCommand :=
  { sampleDeposit with
    entries := [⟨.ofNat 2, .debit, 100⟩, ⟨.ofNat 1, .credit, 100⟩, ⟨.ofNat 1, .debit, 100⟩,
      ⟨.ofNat 2, .credit, 100⟩] }

/-- The ledger after it. -/
def sampleCancelling : Ledger := step sampleLedger (.post (.ofNat 10) sampleReturned)

/-- The wallet has been credited and debited as much. -/
theorem reverse_restores_iff_sample :
    (step sampleCancelling (.reverse (.ofNat 12) (.ofNat 10) "undo" "UNDO-1")).accountBalanceWithin
        (.ofNat 1) = (sampleCancelling.without (.ofNat 10)).accountBalanceWithin (.ofNat 1) ∧
      (postedTransaction (.ofNat 10) sampleReturned).net (.ofNat 1) = 0 :=
  have hnet : (postedTransaction (.ofNat 10) sampleReturned).net (.ofNat 1) = 0 := by decide +kernel
  have hreversed : sampleCancelling.reverse (.ofNat 12)
      (postedTransaction (.ofNat 10) sampleReturned).id "undo" "UNDO-1" = .ok (⟨.ofNat 12, "UNDO-1"⟩,
        step sampleCancelling (.reverse (.ofNat 12) (.ofNat 10) "undo" "UNDO-1")) :=
    eq_ok_committed sampleCancelling (by decide +kernel)
  ⟨(reverse_restores_iff (by decide +kernel) rfl (by decide +kernel) hreversed (.ofNat 1)).mpr hnet,
    hnet⟩

/-- Reversing a deposit of 100 leaves the wallet at -100, not at the 0 it had before. -/
theorem reverse_undoes_twice :
    ¬ ∀ ledger, Reaches step anyCall sampleLedger ledger →
      ∀ t ∈ ledger.transactions.rows, t.status = .posted → t.reversalOfId = none →
      ∀ (id : Uuid) (key reference : String) (ref : LedgerReference) (ledger' : Ledger),
      (∀ u ∈ ledger.transactions.rows, u.idempotencyKey ≠ key) →
      ledger.reverse id t.id key reference = .ok (ref, ledger') →
      ∀ a, ledger'.accountBalanceWithin a = (ledger.without t.id).accountBalanceWithin a := by
  intro h
  have hbalance := h sampleDeposited (reaches_foldl step sampleLedger [.post _ sampleDeposit])
    sampleTransaction (by decide +kernel) rfl rfl (.ofNat 12) "undo" "UNDO-1" _ _
    (by decide +kernel) sampleReversed_eq_ok (.ofNat 1)
  exact absurd hbalance (by decide +kernel)

end AjoCloud.Ledger
