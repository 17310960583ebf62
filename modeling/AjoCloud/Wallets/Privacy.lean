import AjoCloud.Wallets.Callers

/-!
# Keys and other members

Two members' calls run in any order of their steps.  What a member observes and what is posted on the
member's behalf is as if nobody else had called, as long as nobody else uses one of the member's keys or pays
the member.
-/

namespace AjoCloud.Wallets

open Lib ServiceError Ledger

section

variable {ι : Type} (calls : ι → MovementCall) (db : Db) (user : Uuid) (events : List (ι × Ctx))

/-- Nobody else uses a key of the user's, now or before, and nobody else pays the user. -/
structure Apart : Prop where
  keys : ∀ i, (calls i).userId ≠ user → ¬ OwnKey calls user (calls i).ledgerKey
  owns : Owns calls db user db
  elsewhere : ∀ i, (calls i).userId ≠ user → ∀ dto, (calls i).movement = .send dto →
    ∀ x ∈ db.users.rows, x.email = some dto.recipientEmail → x.id ≠ user

/-- `randomUUID` draws nothing that somebody else draws, or that a posting has. -/
structure Drawn : Prop where
  others : ∀ e ∈ events, ∀ e' ∈ events, (calls e.1).userId = user → (calls e'.1).userId ≠ user →
    ∀ k k', e.2.uuid k ≠ e'.2.uuid k'
  postings : ∀ e ∈ events, ∀ t ∈ db.ledger.transactions.rows, ∀ k, t.id ≠ e.2.uuid k

/-- The steps of the user's calls. -/
def ownSteps : List (ι × Ctx) := events.filter fun e ↦ (calls e.1).userId = user

/-- An identifier that the user's calls draw, or that a posting under one of the user's keys has. -/
def Mine (id : Uuid) : Prop :=
  (∃ e ∈ events, (calls e.1).userId = user ∧ ∃ k, e.2.uuid k = id) ∨
    ∃ t ∈ db.ledger.transactions.rows, OwnKey calls user t.idempotencyKey ∧ t.id = id

end

variable {ι : Type} {calls : ι → MovementCall} {db : Db} {user : Uuid} {events : List (ι × Ctx)}
  {verify : String → String → Bool}

/-- An identifier that somebody else draws. -/
theorem Drawn.not_mine (h : Drawn calls db user events) {e : ι × Ctx} (he : e ∈ events)
    (hne : (calls e.1).userId ≠ user) (k : Nat) : ¬ Mine calls db user events (e.2.uuid k) := by
  rintro (⟨e', he', huser, k', heq⟩ | ⟨t, ht, -, heq⟩)
  · exact h.others e' he' e he huser hne k' k heq
  · exact h.postings e he t ht k heq

/-- Before the first step. -/
theorem Beside.opening (hapart : Apart calls db user) (hdrawn : Drawn calls db user events) :
    Beside calls db user (Mine calls db user events) db db where
  untouched := ⟨rfl, rfl, rfl, rfl⟩
  untouched' := ⟨rfl, rfl, rfl, rfl⟩
  pin := rfl
  transactions := .refl _
  transfers := .refl _
  withdrawals := .refl _
  known := by
    refine fun t ht ↦ ⟨?_, fun hkey ↦ .inr ⟨t, ht, hkey, rfl⟩⟩
    rintro (⟨e, he, -, k, heq⟩ | ⟨t', ht', hkey, heq⟩)
    · exact absurd heq.symm (hdrawn.postings e he t ht k)
    · rwa [← db.ledger.transactions.eq_of_clash ht' ht (.inl (.inl (.inl heq)))]
  owns := hapart.owns

/-- The run and the one in which nobody else calls. -/
theorem alike_ownSteps [DecidableEq ι] (verify : String → String → Bool) (hapart : Apart calls db user)
    (hdrawn : Drawn calls db user events) :
    Callers.Alike (Beside calls db user (Mine calls db user events)) (fun _ x ↦ x.IsOf db user)
      (fun i ↦ decide ((calls i).userId = user)) (runCalls verify calls db events)
      (runCalls verify calls db (ownSteps calls user events)) := by
  have hstart : Callers.Alike (Beside calls db user (Mine calls db user events)) (fun _ x ↦ x.IsOf db user)
      (fun i ↦ decide ((calls i).userId = user)) (Wallets.opening (ι := ι) db) (Wallets.opening db) :=
    ⟨.opening hapart hdrawn, fun _ _ ↦ ⟨rfl, trivial⟩⟩
  have hevents : ∀ e ∈ events, e ∈ events := fun _ he ↦ he
  refine Callers.purge ?_ ?_ hstart events hevents
  · intro i ctx s s' x hother he hbeside
    have hne := of_decide_eq_false hother
    exact hbeside.otherExec hne (hapart.keys i hne) (hdrawn.not_mine he hne) (hapart.elsewhere i hne) x
  · intro i ctx s s' x hself he hbeside hx
    have huser := of_decide_eq_true hself
    exact hbeside.exec huser ⟨i, huser, rfl⟩ (fun k ↦ .inl ⟨(i, ctx), he, huser, k, rfl⟩) hx

/-- **Keys of one's own.**  Where nobody else uses one of the user's keys or pays the user, every call of the
user's is where it is when nobody else calls, the record it returns is the user's own, and the same is posted
on the user's behalf. -/
theorem own_keys_private [DecidableEq ι] (hapart : Apart calls db user)
    (hdrawn : Drawn calls db user events) :
    (∀ i, (calls i).userId = user →
      (runCalls verify calls db events).place i =
          (runCalls verify calls db (ownSteps calls user events)).place i ∧
        ∀ record, (runCalls verify calls db events).place i = .done (.ok record) → record.IsOf db user) ∧
    ((runCalls verify calls db events).shared.ledger.transactions.rows.filter fun t ↦
        t.initiatedByUserId = some user) =
      (runCalls verify calls db (ownSteps calls user events)).shared.ledger.transactions.rows.filter fun t ↦
        t.initiatedByUserId = some user := by
  have halike := alike_ownSteps verify hapart hdrawn
  refine ⟨fun i hi ↦ ?_, halike.shared.transactions.filter_eq fun t ht ↦ decide_eq_false ht.initiator⟩
  obtain ⟨hsame, hown⟩ := halike.place i (decide_eq_true hi)
  refine ⟨hsame, fun record hrecord ↦ ?_⟩
  rw [hsame.symm.trans hrecord] at hown
  exact hown

/-! ## Two members -/

section Sample

/-- What the first two wallets hold, in one transaction. -/
def sampleFunding : LedgerTransaction :=
  postedTransaction (.ofNat 15)
    { idempotencyKey := "opening"
      reference := "OPENING"
      description := "opening"
      currency := "NGN"
      initiatedByUserId := none
      correlationId := none
      entries := [⟨.ofNat 13, .debit, 1000⟩, ⟨.ofNat 11, .credit, 500⟩, ⟨.ofNat 12, .credit, 500⟩] }

/-- Three members with a wallet each. -/
def sampleMembers : Db :=
  { Db.empty with
    ledger :=
      { accounts := ⟨[plainAccount 11 "WALLET:1" .liability .walletAvailable (some 21) codePurpose_wallet1,
          plainAccount 12 "WALLET:2" .liability .walletAvailable (some 22) codePurpose_wallet2,
          plainAccount 13 "WALLET:3" .liability .walletAvailable (some 23) (by decide)], by decide⟩
        transactions := ⟨[sampleFunding], by simp⟩
        foreignKey := by decide }
    users := ⟨[⟨.ofNat 1, some "a@example.com", none, .active, none⟩,
      ⟨.ofNat 2, some "b@example.com", none, .active, none⟩,
      ⟨.ofNat 3, some "c@example.com", none, .active, none⟩], by decide⟩
    wallets := ⟨[⟨.ofNat 21, .ofNat 1, "NGN", .active⟩, ⟨.ofNat 22, .ofNat 2, "NGN", .active⟩,
      ⟨.ofNat 23, .ofNat 3, "NGN", .active⟩], by decide⟩
    kyc := { Db.empty.kyc with
      transactionPins := ⟨[⟨.ofNat 31, .ofNat 1, "1928", 0, none, none, 0⟩,
        ⟨.ofNat 32, .ofNat 2, "1928", 0, none, none, 0⟩], by decide⟩ } }

/-- A transfer that the `n`-th member asks for. -/
def sampleSend (n : Nat) (recipientEmail : String) (amountMinor : Int) (key : String) : MovementCall :=
  ⟨.ofNat n, "1928", key, .send ⟨.ofNat (20 + n), recipientEmail, amountMinor, none⟩⟩

/-- The record of a transfer from the `n`-th member to the third. -/
def sampleTransfer (n : Nat) (amountMinor : Int) (key : String) : Transfer where
  id := .ofNat (100 * n + 2)
  sourceWalletId := .ofNat (20 + n)
  destinationWalletId := .ofNat 23
  internalReference := "SEND-" ++ (Uuid.ofNat (100 * n + 1)).toString
  amountMinor := amountMinor
  currency := "NGN"
  status := .succeeded
  idempotencyKey := key
  ledgerTransactionId := some (.ofNat (100 * n))

/-- What the two calls draw. -/
def sampleDraw (second : Bool) (k : Nat) : Nat := (if second then 200 else 100) + k % 10

/-- The steps of two calls, in this order. -/
def sampleSteps (order : List Bool) : List (Bool × Ctx) :=
  order.map fun i ↦ (i, ⟨1000, fun k ↦ .ofNat (sampleDraw i k)⟩)

/-- The two calls. -/
def sampleCalls (first second : MovementCall) (i : Bool) : MovementCall := if i then second else first

/-- Where the first call is after the steps. -/
def sampleRun (first second : MovementCall) (order : List Bool) : Progress :=
  (runCalls (fun hash pin ↦ hash = pin) (sampleCalls first second) sampleMembers (sampleSteps order)).place false

theorem toNat_sampleDraw (i : Bool) (k : Nat) : (Uuid.ofNat (sampleDraw i k)).bits.toNat = sampleDraw i k := by
  rw [Uuid.ofNat, BitVec.toNat_ofNat, Nat.mod_eq_of_lt]
  rw [sampleDraw]
  split <;> omega

theorem drawn_sampleSteps (calls : Bool → MovementCall) (user : Uuid) (order : List Bool) :
    Drawn calls sampleMembers user (sampleSteps order) where
  others := by
    intro e he e' he' huser hne k k' heq
    obtain ⟨i, -, rfl⟩ := List.mem_map.mp he
    obtain ⟨j, -, rfl⟩ := List.mem_map.mp he'
    have hij : i ≠ j := by
      rintro rfl
      exact hne huser
    have hsame := congrArg (·.bits.toNat) heq
    dsimp only at hsame
    rw [toNat_sampleDraw, toNat_sampleDraw, sampleDraw, sampleDraw] at hsame
    cases i <;> cases j
    · exact hij rfl
    · simp only [Bool.false_eq_true, if_false, if_true] at hsame
      omega
    · simp only [Bool.false_eq_true, if_false, if_true] at hsame
      omega
    · exact hij rfl
  postings := by
    intro e he t ht k heq
    obtain ⟨i, -, rfl⟩ := List.mem_map.mp he
    have hsame := congrArg (·.bits.toNat) heq
    dsimp only at hsame
    have hopening : t.id.bits.toNat = 15 := by
      rw [List.mem_singleton.mp ht]
      rfl
    rw [toNat_sampleDraw, hopening, sampleDraw] at hsame
    split at hsame <;> omega

theorem apart_sample : Apart (sampleCalls (sampleSend 1 "c@example.com" 300 "rent")
    (sampleSend 2 "c@example.com" 400 "gift")) sampleMembers (.ofNat 1) where
  keys := by
    rintro i hi ⟨j, hj, hkey⟩
    cases i <;> cases j
    · exact hi hj
    · exact hi rfl
    · revert hkey
      decide
    · exact hi hj
  owns := ⟨fun _ ht ↦ (List.not_mem_nil ht).elim, fun _ hw ↦ (List.not_mem_nil hw).elim⟩
  elsewhere := by
    intro i hi dto hdto
    cases i with
    | false => exact absurd rfl hi
    | true =>
        cases hdto
        decide

/-- The calls of two members who pay a third, one step each in turn. -/
theorem own_keys_private_sample :
    sampleRun (sampleSend 1 "c@example.com" 300 "rent") (sampleSend 2 "c@example.com" 400 "gift")
        [true, false, true, false, true, false, true, false] =
      sampleRun (sampleSend 1 "c@example.com" 300 "rent") (sampleSend 2 "c@example.com" 400 "gift")
        [false, false, false, false] ∧
    sampleRun (sampleSend 1 "c@example.com" 300 "rent") (sampleSend 2 "c@example.com" 400 "gift")
        [false, false, false, false] = .done (.ok (.transfer (sampleTransfer 1 300 "rent"))) :=
  ⟨((own_keys_private apart_sample (drawn_sampleSteps _ _ _)).1 false rfl).1, by decide +kernel⟩

/-- Two members under one key: the first is given the second's transfer, and pays nobody.  And under two keys,
when the second pays the first, a transfer goes through that is otherwise refused. -/
theorem keys_not_private :
    (sampleRun (sampleSend 1 "c@example.com" 300 "rent") (sampleSend 2 "c@example.com" 400 "rent")
          [true, true, true, true, false, false, false, false] =
        .done (.ok (.transfer (sampleTransfer 2 400 "rent"))) ∧
      ¬ (MovementRecord.transfer (sampleTransfer 2 400 "rent")).IsOf sampleMembers (.ofNat 1) ∧
      sampleRun (sampleSend 1 "c@example.com" 300 "rent") (sampleSend 2 "c@example.com" 400 "rent")
          [false, false, false, false] = .done (.ok (.transfer (sampleTransfer 1 300 "rent")))) ∧
    sampleRun (sampleSend 1 "c@example.com" 800 "rent") (sampleSend 2 "a@example.com" 400 "gift")
        [true, true, true, true, false, false, false, false, false] =
      .done (.ok (.transfer (sampleTransfer 1 800 "rent"))) ∧
    sampleRun (sampleSend 1 "c@example.com" 800 "rent") (sampleSend 2 "a@example.com" 400 "gift")
        [false, false, false, false, false] =
      .done (.error (unprocessable "Your wallet balance is not enough")) := by
  have hanother : ∀ w ∈ sampleMembers.wallets.rows, ¬ (w.id = .ofNat 22 ∧ w.userId = .ofNat 1) := by decide
  refine ⟨⟨by decide +kernel, ?_, by decide +kernel⟩, by decide +kernel, by decide +kernel⟩
  rintro ⟨w, hw, hown⟩
  exact hanother w hw hown

end Sample

end AjoCloud.Wallets
