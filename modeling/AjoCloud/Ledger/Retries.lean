import AjoCloud.Ledger.Reversal

/-!
# Retrying a reversal

`postWithin` looks its key up first.  `reverse` looks first whether the original is still posted, which
it no longer is once it has been reversed, and does not ask what transaction has the key.
-/

namespace AjoCloud.Ledger

open Lib

variable {ledger ledger' : Ledger} {t : LedgerTransaction} {id : Uuid} {key reference : String}

/-! ## What has been reversed -/

/-- The stored transactions fit their columns, and whatever has a reversal is marked as reversed. -/
structure Marked (ledger : Ledger) : Prop where
  fits : ∀ t ∈ ledger.transactions.rows, t.fits
  marked : ∀ u ∈ ledger.transactions.rows, ∀ i, u.reversalOfId = some i →
    ∃ t ∈ ledger.transactions.rows, t.id = i ∧ t.status = .reversed

/-- A posted transaction has no reversal. -/
theorem Marked.unreversed (h : Marked ledger) (ht : t ∈ ledger.transactions.rows)
    (hposted : t.status = .posted) : ∀ u ∈ ledger.transactions.rows, u.reversalOfId ≠ some t.id := by
  intro u hu hof
  obtain ⟨x, hx, hid, hreversed⟩ := h.marked u hu t.id hof
  rw [eq_of_id hx ht hid, hposted] at hreversed
  cases hreversed

theorem marked_step (h : Marked ledger) (call : Call) : Marked (step ledger call) := by
  rcases step_cases ledger call with same | ⟨id, command, -, created⟩ |
    ⟨id, original, key, reference, created, hmem, hposted, create, marked⟩
  · rw [same]
    exact h
  · obtain ⟨hfits, -, -, -, hrows⟩ := createTransaction_eq_ok created
    constructor
    · intro u hu
      rw [hrows, List.mem_append, List.mem_singleton] at hu
      rcases hu with hu | rfl
      · exact h.fits u hu
      · exact hfits
    · intro u hu i hof
      rw [hrows, List.mem_append, List.mem_singleton] at hu
      rcases hu with hu | rfl
      · obtain ⟨x, hx, hfound⟩ := h.marked u hu i hof
        exact ⟨x, hrows ▸ List.mem_append_left _ hx, hfound⟩
      · cases hof
  · obtain ⟨hfits, -, -, -, -⟩ := createTransaction_eq_ok create
    have hmem' : ∀ u : LedgerTransaction, u ∈ (step ledger call).transactions.rows ↔ _ :=
      fun u ↦ mem_of_reversed hmem create marked
    constructor
    · intro u hu
      rcases (hmem' u).mp hu with ⟨hu, -⟩ | rfl | rfl
      · exact h.fits u hu
      · exact h.fits original hmem
      · exact hfits
    · intro u hu i hof
      have hold : ∀ w ∈ ledger.transactions.rows, w.reversalOfId = some i →
          ∃ x ∈ (step ledger call).transactions.rows, x.id = i ∧ x.status = .reversed := by
        intro w hw hof
        obtain ⟨x, hx, hid, hreversed⟩ := h.marked w hw i hof
        have hne : x.id ≠ original.id := by
          intro heq
          rw [eq_of_id hx hmem heq, hposted] at hreversed
          cases hreversed
        exact ⟨x, (hmem' x).mpr (.inl ⟨hx, hne⟩), hid, hreversed⟩
      rcases (hmem' u).mp hu with ⟨hu, -⟩ | rfl | rfl
      · exact hold u hu hof
      · exact hold original hmem hof
      · exact ⟨{ original with status := .reversed }, (hmem' _).mpr (.inr (.inl rfl)),
          Option.some.inj hof, rfl⟩

theorem marked_of_reaches {ledger₀ : Ledger} (h₀ : ledger₀.transactions.rows = [])
    (h : Reaches step anyCall ledger₀ ledger) : Marked ledger := by
  refine h.invariant ⟨?_, ?_⟩ fun _ call h _ ↦ marked_step h call
  · rw [h₀]
    exact List.forall_mem_nil _
  · rw [h₀]
    exact List.forall_mem_nil _

/-! ## Retries -/

/-- The call posts, or reverses another transaction. -/
def Call.Spares (originalId : Uuid) (_ : Ledger) : Call → Prop
  | .post .. | .postWithin .. => True
  | .reverse _ otherId _ _ => otherId ≠ originalId

/-- The transaction with this identifier is a reversal of `t`. -/
def IsReversalOf (ledger : Ledger) (id : Uuid) (t : LedgerTransaction) : Prop :=
  ∃ r ∈ ledger.transactions.rows, r.id = id ∧ r.reversalOfId = some t.id

/-- Reversing `t` is idempotent by its key: a reversal that was returned is returned again, and a key
of anything else is refused. -/
structure IdempotentByKey (ledger : Ledger) (t : LedgerTransaction) (id : Uuid)
    (key reference : String) : Prop where
  repeated : ∀ ref ledger', ledger.reverse id t.id key reference = .ok (ref, ledger') →
    IsReversalOf ledger' ref.id t → ∀ later, Reaches step (Call.Spares t.id) ledger' later →
      ∀ id', later.reverse id' t.id key reference = .ok (ref, later)
  rejected : ∀ e ∈ ledger.transactions.rows, e.idempotencyKey = key → e.reversalOfId ≠ some t.id →
    ∀ answer, ledger.reverse id t.id key reference ≠ .ok answer

/-- A key that is taken is answered with what has it. -/
theorem exists_reverse_of_key (ht : t ∈ ledger.transactions.rows) (hposted : t.status = .posted)
    {e : LedgerTransaction} (he : e ∈ ledger.transactions.rows) (hkey : e.idempotencyKey = key) :
    ∃ answer, ledger.reverse id t.id key reference = .ok answer := by
  have hfind : (ledger.transactions.find? fun u ↦ u.id = t.id) = some t :=
    ledger.transactions.find?_eq_some_of_mem ht (decide_eq_true rfl)
      fun x _ hx ↦ .inl (.inl (.inl (of_decide_eq_true hx)))
  rw [reverse, bind_of_eq_ok (orThrow_eq_ok.mpr hfind), bind_of_eq_ok (require_of hposted)]
  cases hexisting : ledger.byKey key with
  | none => exact absurd hkey (byKey_eq_none hexisting he)
  | some existing => exact ⟨_, rfl⟩

/-- Under a key that is free the reversal is stored. -/
theorem stored_of_reverse (ht : t ∈ ledger.transactions.rows)
    (hfresh : ∀ u ∈ ledger.transactions.rows, u.idempotencyKey ≠ key) {ref : LedgerReference}
    (h : ledger.reverse id t.id key reference = .ok (ref, ledger')) :
    ref.id = id ∧ ∃ created,
      ledger.createTransaction (reversalTransaction id t key reference) = .ok created ∧
        ledger' = created.setStatus t.id .reversed := by
  rw [reverse, orThrow_bind_eq_ok] at h
  obtain ⟨original, hfind, h⟩ := h
  have horiginal : original.id = t.id := by simpa using Table.prop_of_find? hfind
  obtain rfl := eq_of_id (Table.mem_of_find? hfind) ht horiginal
  obtain ⟨-, h⟩ := require_bind_eq_ok.mp h
  split at h
  · next existing hkey =>
      obtain ⟨hmem, hk⟩ := byKey_eq_some hkey
      exact absurd hk (hfresh existing hmem)
  · obtain ⟨created, hcreate, h⟩ := bind_eq_ok.mp h
    rw [pure_eq_ok, Prod.mk.injEq] at h
    obtain ⟨rfl, rfl⟩ := h
    exact ⟨rfl, created, hcreate, rfl⟩

/-- The original of a reversal that was stored cannot be reversed again, under whatever key. -/
theorem not_reverse_again (ht : t ∈ ledger.transactions.rows)
    (hfresh : ∀ u ∈ ledger.transactions.rows, u.idempotencyKey ≠ key) {ref : LedgerReference}
    (h : ledger.reverse id t.id key reference = .ok (ref, ledger')) {id' : Uuid}
    {key' reference' : String} {answer : LedgerReference × Ledger} :
    ledger'.reverse id' t.id key' reference' ≠ .ok answer := by
  intro hagain
  obtain ⟨-, created, create, marked⟩ := stored_of_reverse ht hfresh h
  have hmarked : { t with status := .reversed } ∈ ledger'.transactions.rows :=
    (mem_of_reversed ht create marked).mpr (.inr (.inl rfl))
  obtain ⟨x, hx, hid, hposted, -⟩ := reverse_eq_ok hagain
  rw [eq_of_id hx hmarked hid] at hposted
  cases hposted

/-- What `reverse` returns under a key that is free is the reversal. -/
theorem isReversalOf_of_reverse (ht : t ∈ ledger.transactions.rows)
    (hfresh : ∀ u ∈ ledger.transactions.rows, u.idempotencyKey ≠ key) {ref : LedgerReference}
    (h : ledger.reverse id t.id key reference = .ok (ref, ledger')) :
    IsReversalOf ledger' ref.id t := by
  obtain ⟨hid, created, create, marked⟩ := stored_of_reverse ht hfresh h
  rw [hid]
  exact ⟨_, (mem_of_reversed ht create marked).mpr (.inr (.inr rfl)), rfl, rfl⟩

/-- Reversing a posted transaction is idempotent by its key exactly when the key is free and the
reversal is refused for its reference or for the length of one of the two. -/
theorem idempotent_by_key_iff {ledger₀ : Ledger} (h₀ : ledger₀.transactions.rows = [])
    (hrun : Reaches step anyCall ledger₀ ledger) (ht : t ∈ ledger.transactions.rows)
    (hposted : t.status = .posted) (hid : ∀ u ∈ ledger.transactions.rows, u.id ≠ id) :
    IdempotentByKey ledger t id key reference ↔
      (∀ u ∈ ledger.transactions.rows, u.idempotencyKey ≠ key) ∧
        ((∃ u ∈ ledger.transactions.rows, u.reference = reference) ∨ ¬ fitsVarChar 80 reference ∨
          ¬ fitsVarChar 128 key) := by
  have hmarked := marked_of_reaches h₀ hrun
  constructor
  · intro h
    have hfree : ∀ u ∈ ledger.transactions.rows, u.idempotencyKey ≠ key := by
      intro e he hkey
      obtain ⟨answer, hok⟩ := exists_reverse_of_key ht hposted he hkey
      exact h.rejected e he hkey (hmarked.unreversed ht hposted e he) answer hok
    refine ⟨hfree, ?_⟩
    by_contra hstored
    obtain ⟨hreference, hfits⟩ := not_or.mp hstored
    obtain ⟨hfitsReference, hfitsKey⟩ := not_or.mp hfits
    rw [not_not] at hfitsReference hfitsKey
    obtain ⟨⟨ref, ledger'⟩, hok⟩ := (exists_reverse_iff ht hposted (hmarked.fits t ht)
      (hmarked.unreversed ht hposted) hid hfree hfitsKey hfitsReference).mpr
        fun u hu heq ↦ hreference ⟨u, hu, heq⟩
    exact not_reverse_again ht hfree hok
      (h.repeated ref ledger' hok (isReversalOf_of_reverse ht hfree hok) ledger' (.refl _) id)
  · rintro ⟨hfree, hrefused⟩
    refine ⟨fun ref ledger' hok ↦ ?_, fun e he hkey ↦ absurd hkey (hfree e he)⟩
    obtain ⟨-, created, create, -⟩ := stored_of_reverse ht hfree hok
    obtain ⟨hfits, -, hclash, -, -⟩ := createTransaction_eq_ok create
    rcases hrefused with ⟨u, hu, heq⟩ | hlong | hlong
    · exact absurd (.inl (.inl (.inr ⟨rfl, congrArg some heq⟩))) (hclash u hu)
    · exact absurd hfits.1 hlong
    · exact absurd hfits.2.1 hlong

theorem idempotent_by_key_sample :
    IdempotentByKey sampleDeposited sampleTransaction (.ofNat 12) "undo" sampleDeposit.reference :=
  (idempotent_by_key_iff rfl (reaches_foldl step sampleLedger [.post (.ofNat 10) sampleDeposit])
    (by decide +kernel) rfl (by decide +kernel)).mpr
      ⟨by decide +kernel, .inl ⟨sampleTransaction, by decide +kernel, rfl⟩⟩

/-- Once the deposit has been reversed, it is no longer found. -/
theorem retried_reversal_refused :
    ¬ ∀ ledger, Reaches step anyCall sampleLedger ledger → ∀ t ∈ ledger.transactions.rows,
      t.status = .posted → ∀ (id : Uuid) (key reference : String),
        (∀ u ∈ ledger.transactions.rows, u.id ≠ id) → IdempotentByKey ledger t id key reference := by
  intro h
  have hmem : sampleTransaction ∈ sampleDeposited.transactions.rows := by decide +kernel
  have hfree : ∀ u ∈ sampleDeposited.transactions.rows, u.idempotencyKey ≠ "undo" := by decide +kernel
  have hidempotent := h sampleDeposited
    (reaches_foldl step sampleLedger [.post (.ofNat 10) sampleDeposit]) sampleTransaction hmem rfl
    (.ofNat 12) "undo" "UNDO-1" (by decide +kernel)
  exact not_reverse_again hmem hfree sampleReversed_eq_ok (hidempotent.repeated _ _ sampleReversed_eq_ok
    (isReversalOf_of_reverse hmem hfree sampleReversed_eq_ok) sampleReversed (.refl _) (.ofNat 13))

end AjoCloud.Ledger
