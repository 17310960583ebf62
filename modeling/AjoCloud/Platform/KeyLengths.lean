import AjoCloud.Ajo.Paths
import AjoCloud.Ledger.TrialBalance
import AjoCloud.Platform.Keys

/-!
# The length of a ledger key

An idempotency key that a caller chose is put after the opening of its operation and, at times, an
identifier.  The column of the ledger has room for 128 characters.  The boundary admits keys of up to 128,
and `payContribution` keys of any length.
-/

namespace AjoCloud.Platform

open Lib ServiceError Ledger

/-! ## What the boundary admits -/

/-- `requireIdempotencyKey`, as the wallets' controller and that of the payments have it. -/
def requireIdempotencyKey (key : Option String) : Except ServiceError String :=
  match key with
  | none => .error (badRequest "A valid Idempotency-Key header is required")
  | some key =>
      if textUnits key < 8 ∨ 128 < textUnits key then
        .error (badRequest "A valid Idempotency-Key header is required")
      else .ok key

/-- The operations that make a key of the ledger from one that a caller chose. -/
inductive KeyedOperation where
  | send
  | withdraw
  /-- `confirm` from the wallet. -/
  | confirm (intentId : Uuid)
  | payContribution (scheduleId : Uuid)

namespace KeyedOperation

/-- The key is accepted where the operation is called; the body of `payContribution` has a least length
for it and no greatest. -/
def Accepts : KeyedOperation → String → Prop
  | payContribution _, key => 8 ≤ textUnits key
  | _, key => requireIdempotencyKey (some key) = .ok key

/-- Where a posting under the key comes from. -/
def origin : KeyedOperation → String → Origin
  | send, key => .transfer key
  | withdraw, key => .withdrawal key
  | confirm intentId, key => .confirmation intentId key
  | payContribution scheduleId, key => .contribution scheduleId key

def ledgerKey (op : KeyedOperation) (key : String) : String := (op.origin key).key

/-- How many characters of the column are left to the caller's key. -/
def room : KeyedOperation → Nat
  | send => 119
  | withdraw => 109
  | confirm _ => 76
  | payContribution _ => 74

/-- What the operation posts under a key. -/
inductive Posts : KeyedOperation → String → LedgerPostingCommand → Prop
  | send {ctx userId dto key currency source destination} :
      Posts .send key (Wallets.sendPosting ctx userId dto key currency source destination)
  | withdraw {ctx userId dto key currency bank available reserved} :
      Posts .withdraw key (Wallets.withdrawPosting ctx userId dto key currency bank available reserved)
  | confirm {handler userId key description accounts destination} {intent : PaymentIntent} :
      Posts (.confirm intent.id) key
        (Payments.walletPosting handler userId intent key description accounts destination)
  | payContribution {ctx userId groupId amountMinor key wallet pool} {schedule : ContributionSchedule} :
      Posts (.payContribution schedule.id) key
        (Ajo.contributionPosting ctx userId groupId schedule amountMinor
          (Ajo.contributionIdempotencyKey schedule.id key) wallet pool)

end KeyedOperation

/-! ## Keys that fit -/

section Posting

variable {ledger : Ledger} {id : Uuid} {command : LedgerPostingCommand}

/-- All but the key of the command has been found in order: under another key, which is not in use, it
is posted. -/
def PassesOtherwise (ledger : Ledger) (id : Uuid) (command : LedgerPostingCommand) : Prop :=
  ∃ other, ledger.byKey other = none ∧
    ∃ r, ledger.postWithin id { command with idempotencyKey := other } = .ok r

theorem byKey_eq_none_iff {key : String} :
    ledger.byKey key = none ↔ ∀ t ∈ ledger.transactions.rows, t.idempotencyKey ≠ key := by
  rw [Ledger.byKey, Table.find?, List.find?_eq_none]
  exact forall₂_congr fun t _ ↦ not_congr decide_eq_true_iff

/-- What passes otherwise is posted when its key fits. -/
theorem exists_postWithin_of_fits (h : PassesOtherwise ledger id command)
    (hfits : fitsVarChar 128 command.idempotencyKey) : ∃ r, ledger.postWithin id command = .ok r := by
  obtain ⟨other, hother, hposted⟩ := h
  rw [Ledger.exists_postWithin_iff] at hposted ⊢
  obtain ⟨hbalanced, ⟨t, ht⟩ | ⟨-, hcreated⟩⟩ := hposted
  · rw [hother] at ht
    cases ht
  refine ⟨hbalanced, ?_⟩
  cases hkey : ledger.byKey command.idempotencyKey with
  | some t => exact .inl ⟨t, rfl⟩
  | none =>
      rw [Ledger.exists_createTransaction_iff] at hcreated
      obtain ⟨⟨hreference, -, hcolumns⟩, haccounts, hfresh⟩ := hcreated
      refine .inr ⟨rfl, Ledger.exists_createTransaction_iff.mpr
        ⟨⟨hreference, hfits, hcolumns⟩, haccounts, fun t ht hclash ↦ ?_⟩⟩
      have hnot := mt Ledger.clash_postedTransaction_iff.mpr (hfresh t ht)
      rcases Ledger.clash_postedTransaction_iff.mp hclash with hrest | hsame
      · exact hnot (.inl hrest)
      · exact byKey_eq_none_iff.mp hkey t ht hsame

/-- What passes otherwise fails in the database when its key does not fit. -/
theorem postWithin_of_not_fits (h : PassesOtherwise ledger id command)
    (hfree : ledger.byKey command.idempotencyKey = none)
    (hlong : ¬ fitsVarChar 128 command.idempotencyKey) :
    ledger.postWithin id command = .error (.database .valueTooLong) := by
  obtain ⟨other, -, hposted⟩ := h
  have hbalanced := (Ledger.exists_postWithin_iff.mp hposted).1
  have hnot : ¬ (Ledger.postedTransaction id command).fits := fun hfits ↦ hlong hfits.2.1
  rw [Ledger.postWithin, hfree]
  change assertBalancedPosting command = .ok () at hbalanced
  rw [hbalanced, Ledger.createTransaction, dif_neg hnot]
  rfl

end Posting

namespace KeyedOperation

variable {op : KeyedOperation} {key : String} {command : LedgerPostingCommand}

theorem idempotencyKey_of_posts (h : op.Posts key command) : command.idempotencyKey = op.ledgerKey key := by
  cases h with
  | send => rfl
  | withdraw => rfl
  | confirm => rfl
  | payContribution => rfl

theorem fits_ledgerKey_iff (op : KeyedOperation) (key : String) :
    fitsVarChar 128 (op.ledgerKey key) ↔ key.length ≤ op.room := by
  cases op with
  | send =>
      have hopening : "transfer:".length = 9 := by decide +kernel
      change ("transfer:" ++ key).length ≤ 128 ↔ key.length ≤ 119
      rw [String.length_append, hopening]
      omega
  | withdraw =>
      have hopening : "withdrawal-reserve:".length = 19 := by decide +kernel
      change ("withdrawal-reserve:" ++ key).length ≤ 128 ↔ key.length ≤ 109
      rw [String.length_append, hopening]
      omega
  | confirm intentId => exact Ajo.fits_intentKey_iff
  | payContribution scheduleId => exact Ajo.fits_contributionIdempotencyKey_iff

/-- The key of the ledger has its place in the column, and no posting whose other checks passed fails for
its length. -/
structure KeyFits (op : KeyedOperation) (key : String) : Prop where
  fits : fitsVarChar 128 (op.ledgerKey key)
  posted : ∀ ledger id command, op.Posts key command → PassesOtherwise ledger id command →
    ∃ r, ledger.postWithin id command = .ok r

/-- **A derived key fits when the caller's is short enough.**  Where it is not, every posting of the
operation that passes its other checks fails in the database. -/
theorem keyFits_iff (op : KeyedOperation) (key : String) :
    (op.KeyFits key ↔ key.length ≤ op.room) ∧
      (op.room < key.length → ∀ ledger id command, op.Posts key command →
        PassesOtherwise ledger id command → ledger.byKey command.idempotencyKey = none →
          ledger.postWithin id command = .error (.database .valueTooLong)) := by
  constructor
  · constructor
    · intro h
      exact (op.fits_ledgerKey_iff key).mp h.fits
    · intro hshort
      have hfits := (op.fits_ledgerKey_iff key).mpr hshort
      refine ⟨hfits, fun ledger id command hposts hpasses ↦ exists_postWithin_of_fits hpasses ?_⟩
      rw [idempotencyKey_of_posts hposts]
      exact hfits
  · intro hlong ledger id command hposts hpasses hfree
    refine postWithin_of_not_fits hpasses hfree ?_
    rw [idempotencyKey_of_posts hposts, op.fits_ledgerKey_iff]
    exact Nat.not_le.mpr hlong

/-- A key of 120 characters. -/
def longKey : String := String.ofList (List.replicate 120 'k')

/-- One naira, from the first account to the second. -/
def samplePosting : LedgerPostingCommand :=
  Wallets.sendPosting ⟨0, fun k ↦ .ofNat (20 + k)⟩ (.ofNat 1) ⟨.ofNat 2, "b@example.com", 100, none⟩ longKey
    "NGN" (.ofNat 1) (.ofNat 2)

/-- The boundary admits the key, and the transfer fails for its length alone. -/
theorem accepted_key_too_long :
    send.Accepts longKey ∧ ¬ fitsVarChar 128 (send.ledgerKey longKey) ∧
      send.Posts longKey samplePosting ∧ PassesOtherwise sampleLedger (.ofNat 20) samplePosting ∧
      sampleLedger.postWithin (.ofNat 20) samplePosting = .error (.database .valueTooLong) := by
  have hlength : send.room < longKey.length := by decide +kernel
  have hposts : send.Posts longKey samplePosting := .send
  have hpasses : PassesOtherwise sampleLedger (.ofNat 20) samplePosting := by
    refine ⟨"transfer:key", by decide +kernel, ?_⟩
    rw [exists_eq_ok_iff]
    decide +kernel
  refine ⟨?_, ?_, hposts, hpasses, ?_⟩
  · have hunits : textUnits longKey = 120 := by decide +kernel
    change requireIdempotencyKey (some longKey) = .ok longKey
    rw [requireIdempotencyKey, hunits]
    rfl
  · rw [fits_ledgerKey_iff]
    exact Nat.not_le.mpr hlength
  · refine postWithin_of_not_fits hpasses (by decide +kernel) ?_
    rw [idempotencyKey_of_posts hposts, fits_ledgerKey_iff]
    exact Nat.not_le.mpr hlength

end KeyedOperation

end AjoCloud.Platform
