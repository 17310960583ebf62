import AjoCloud.Auth.TransactionPin
import AjoCloud.Common.Json
import AjoCloud.Lib.Frame
import AjoCloud.Lib.Threads

/-!
# Changing the PIN

`setPin` looks for a row, has the current PIN compared, computes the digest of the new one and stores
it, in steps of their own.  A `PinRequest` is what is left of such a call.  Nothing else writes the
table of PINs.
-/

namespace AjoCloud.Auth

open Lib ServiceError

/-! ## Steps -/

/-- A call of the service, or what is left of it. -/
inductive PinRequest where
  /-- `setPin`, before it looks for the row. -/
  | setPin (userId : Uuid) (pin : String) (currentPin : Option String)
  /-- `assertCurrentPinMatches`, before it reads the row; for `setPin` with the PIN that is to come. -/
  | check (userId : Uuid) (presented : String) (newPin : Option String)
  /-- The same, before Argon2id; the row was read at `readAt`. -/
  | compare (userId : Uuid) (existing : TransactionPin) (readAt : Timestamp) (presented : String)
      (newPin : Option String)
  /-- `setPin`, before it stores the digest; `compared` is the row whose digest the current PIN had, if
  there was one. -/
  | store (userId : Uuid) (newPin : String) (currentPin : Option String)
      (compared : Option TransactionPin)
deriving DecidableEq

/-- What a step takes from outside: the clock and the identifiers, and Argon2id with the salt of this
step. -/
structure PinInputs where
  ctx : Ctx
  hash : String → String

section Steps

variable (verify : String → String → Bool)

/-- One step of a call. -/
def serve (o : PinInputs) (db : Db) : PinRequest → Db × Option PinRequest
  | .setPin userId pin currentPin =>
      match assertUsablePin pin, pinOf db userId, truthy currentPin with
      | .error _, _, _ => (db, none)
      | .ok _, none, _ => (db, some (.store userId pin currentPin none))
      | .ok _, some _, none => (db, none)
      | .ok _, some _, some current => (db, some (.check userId current (some pin)))
  | .check userId presented newPin =>
      match readPin o.ctx.now db userId with
      | .error _ => (db, none)
      | .ok existing => (db, some (.compare userId existing o.ctx.now presented newPin))
  | .compare userId existing readAt presented newPin =>
      match concludePin verify readAt db userId existing presented with
      | (db, .error _) => (db, none)
      | (db, .ok _) => (db, newPin.map fun pin ↦ .store userId pin (some presented) (some existing))
  | .store userId newPin _ _ =>
      match storePin o.ctx db userId (o.hash newPin) with
      | .error _ => (db, none)
      | .ok db' => (db', none)

end Steps

/-! ## Who may change a PIN -/

/-- The current PIN that the call came with. -/
def PinRequest.presented : PinRequest → Option String
  | .setPin _ _ currentPin => currentPin
  | .check _ presented _ => some presented
  | .compare _ _ _ presented _ => some presented
  | .store _ _ currentPin _ => currentPin

/-- The call is one of `setPin`. -/
def PinRequest.sets : PinRequest → Bool
  | .setPin .. => true
  | .check _ _ newPin => newPin.isSome
  | .compare _ _ _ _ newPin => newPin.isSome
  | .store .. => true

/-- What a call starts as. -/
def PinRequest.isCall : PinRequest → Bool
  | .setPin .. | .check _ _ none => true
  | _ => false

/-- The counter or the lock was cleared. -/
def Cleared (before after : TransactionPin) : Prop :=
  (before.failedCount ≠ 0 ∧ after.failedCount = 0) ∨
    (before.lockedUntil.isSome ∧ after.lockedUntil = none)

/-- A step changes a PIN that is stored only for somebody who knows it. -/
structure Secured (verify : String → String → Bool) (o : PinInputs) (db : Db) (t : PinRequest) :
    Prop where
  /-- Whoever replaces the PIN came with the one that is stored. -/
  replaced : ∀ userId before after, pinOf db userId = some before →
    pinOf (serve verify o db t).1 userId = some after →
    (after.pinHash ≠ before.pinHash ∨ after.changedAt ≠ before.changedAt) →
    ∃ pin ∈ t.presented, verify before.pinHash pin = true
  /-- So did a call of `setPin` that clears what wrong PINs have left. -/
  cleared : ∀ userId before after, pinOf db userId = some before →
    pinOf (serve verify o db t).1 userId = some after → t.sets = true → Cleared before after →
    ∃ pin ∈ t.presented, verify before.pinHash pin = true

/-- What wrong PINs have left in the row. -/
def HasFailures (p : TransactionPin) : Prop := p.failedCount ≠ 0 ∨ p.lockedUntil.isSome

instance (p : TransactionPin) : Decidable (HasFailures p) := inferInstanceAs (Decidable (_ ∨ _))

/-- What `setPin` has read of the row still stands when it writes.  A call that found no row finds none
when it stores, and one that did finds the digest that it has compared; so does one that clears what
wrong PINs have left.  A wrong current PIN is not counted over a lock that it would lift. -/
def Standing (verify : String → String → Bool) (db : Db) : PinRequest → Prop
  | .store userId _ _ compared =>
      ∀ stored ∈ pinOf db userId, compared.map (·.pinHash) = some stored.pinHash
  | .compare userId existing _ presented (some _) => ∀ stored ∈ pinOf db userId,
      if verify existing.pinHash presented then
        HasFailures existing → HasFailures stored → stored.pinHash = existing.pinHash
      else stored.lockedUntil.isSome → transactionPinMaxAttempts ≤ existing.failedCount + 1
  | _ => True

instance (verify : String → String → Bool) (db : Db) (t : PinRequest) :
    Decidable (Standing verify db t) := by
  unfold Standing
  split
  · infer_instance
  · infer_instance
  · infer_instance

/-- The current PIN of a call that has had it compared has the digest it was compared with. -/
def Carries (verify : String → String → Bool) : PinRequest → Prop
  | .store _ _ currentPin (some compared) => ∃ pin ∈ currentPin, verify compared.pinHash pin = true
  | _ => True

/-! ## Every step -/

section

variable {verify : String → String → Bool} {o : PinInputs} {db db' : Db} {t t' : PinRequest}
  {userId : Uuid}

/-- An update of one user's row, as every lookup sees it. -/
theorem pinOf_updatePin {f : TransactionPin → TransactionPin} (hf : ∀ p, (f p).userId = p.userId)
    (h : updatePin db userId f = .ok db') (other : Uuid) :
    pinOf db' other = (pinOf db other).map fun p ↦ if p.userId = userId then f p else p := by
  simp only [updatePin, bind_eq_ok, pure_eq_ok] at h
  obtain ⟨pins, hpins, rfl⟩ := h
  refine (Table.find?_of_rows (updateRow_eq_ok hpins) fun p _ ↦ ?_).trans ?_
  · rw [hf]
  · simp only [decide_eq_true_eq]
    rfl

theorem userId_of_pinOf {p : TransactionPin} (h : pinOf db userId = some p) : p.userId = userId := by
  simpa using Table.prop_of_find? h

@[simp] theorem userId_acceptPin (now : Timestamp) (existing p : TransactionPin) :
    (acceptPin now existing p).userId = p.userId := by
  rw [acceptPin]
  split <;> rfl

@[simp] theorem pinHash_acceptPin (now : Timestamp) (existing p : TransactionPin) :
    (acceptPin now existing p).pinHash = p.pinHash := by
  rw [acceptPin]
  split <;> rfl

@[simp] theorem changedAt_acceptPin (now : Timestamp) (existing p : TransactionPin) :
    (acceptPin now existing p).changedAt = p.changedAt := by
  rw [acceptPin]
  split <;> rfl

/-- What keeps the counter and the lock clears neither. -/
theorem not_cleared {before after : TransactionPin} (hcount : after.failedCount = before.failedCount)
    (hlock : after.lockedUntil = before.lockedUntil) : ¬ Cleared before after := by
  rintro (⟨hne, heq⟩ | ⟨hsome, hnone⟩)
  · exact hne (hcount ▸ heq)
  · rw [← hlock, hnone] at hsome
    cases hsome

/-- A step that leaves every row as it is. -/
theorem Secured.same (h : ∀ userId, pinOf (serve verify o db t).1 userId = pinOf db userId) :
    Secured verify o db t where
  replaced userId before after hbefore hafter hne := by
    rw [h, hbefore] at hafter
    cases hafter
    simp at hne
  cleared userId before after hbefore hafter _ hcleared := by
    rw [h, hbefore] at hafter
    cases hafter
    exact absurd hcleared (not_cleared rfl rfl)

/-- A step that updates one row. -/
theorem Secured.updated {f : TransactionPin → TransactionPin}
    (hf : ∀ p, (f p).userId = p.userId) (h : updatePin db userId f = .ok (serve verify o db t).1)
    (hreplaced : ∀ p, pinOf db userId = some p →
      ((f p).pinHash ≠ p.pinHash ∨ (f p).changedAt ≠ p.changedAt) →
      ∃ pin ∈ t.presented, verify p.pinHash pin = true)
    (hcleared : ∀ p, pinOf db userId = some p → t.sets = true → Cleared p (f p) →
      ∃ pin ∈ t.presented, verify p.pinHash pin = true) : Secured verify o db t := by
  have hpin := pinOf_updatePin hf h
  have hsplit : ∀ other before after, pinOf db other = some before →
      pinOf (serve verify o db t).1 other = some after →
      after = before ∨ pinOf db userId = some before ∧ after = f before := by
    intro other before after hbefore hafter
    rw [hpin, hbefore, Option.map_some, Option.some_inj] at hafter
    split at hafter
    · next hown =>
        rw [userId_of_pinOf hbefore] at hown
        exact .inr ⟨hown ▸ hbefore, hafter.symm⟩
    · exact .inl hafter.symm
  constructor
  · intro other before after hbefore hafter hne
    rcases hsplit other before after hbefore hafter with rfl | ⟨hown, rfl⟩
    · simp at hne
    · exact hreplaced before hown hne
  · intro other before after hbefore hafter hsets hclear
    rcases hsplit other before after hbefore hafter with rfl | ⟨hown, rfl⟩
    · exact absurd hclear (not_cleared rfl rfl)
    · exact hcleared before hown hsets hclear

theorem serve_compare {existing : TransactionPin} {readAt : Timestamp} {presented : String}
    {newPin : Option String} :
    (serve verify o db (.compare userId existing readAt presented newPin)).1 =
      (concludePin verify readAt db userId existing presented).1 := by
  rw [serve]
  split
  · next hconclude => rw [hconclude]
  · next hconclude => rw [hconclude]

theorem secured_compare {existing : TransactionPin} {readAt : Timestamp} {presented : String}
    {newPin : Option String}
    (hstanding : Standing verify db (.compare userId existing readAt presented newPin)) :
    Secured verify o db (.compare userId existing readAt presented newPin) := by
  by_cases hright : verify existing.pinHash presented = true
  · cases hupdate : updatePin db userId (acceptPin readAt existing) with
    | error e =>
        refine .same fun other ↦ ?_
        rw [serve_compare, concludePin, if_pos hright, hupdate]
    | ok db' =>
        have hwrite : updatePin db userId (acceptPin readAt existing) =
            .ok (serve verify o db (.compare userId existing readAt presented newPin)).1 := by
          rw [serve_compare, concludePin, if_pos hright, hupdate]
        refine .updated (by simp) hwrite ?_ ?_
        · intro p _ hne
          simp at hne
        · intro p hp hsets hclear
          refine ⟨presented, rfl, ?_⟩
          obtain ⟨pin, rfl⟩ := Option.isSome_iff_exists.mp hsets
          have hstill := hstanding p hp
          rw [if_pos hright] at hstill
          rw [hstill ?_ ?_]
          · exact hright
          · by_contra hnone
            rw [acceptPin, if_neg] at hclear
            · exact not_cleared rfl rfl hclear
            · simpa [HasFailures] using hnone
          · rcases hclear with ⟨hne, -⟩ | ⟨hsome, -⟩
            · exact .inl hne
            · exact .inr hsome
  · cases hupdate : updatePin db userId (rejectPin readAt existing) with
    | error e =>
        refine .same fun other ↦ ?_
        rw [serve_compare, concludePin, if_neg hright, hupdate]
    | ok db' =>
        have hwrite : updatePin db userId (rejectPin readAt existing) =
            .ok (serve verify o db (.compare userId existing readAt presented newPin)).1 := by
          rw [serve_compare, concludePin, if_neg hright, hupdate]
        refine .updated (by simp [rejectPin]) hwrite ?_ ?_
        · intro p _ hne
          simp [rejectPin] at hne
        · intro p hp hsets hclear
          obtain ⟨pin, rfl⟩ := Option.isSome_iff_exists.mp hsets
          have hstill := hstanding p hp
          rw [if_neg hright] at hstill
          rcases hclear with ⟨-, hzero⟩ | ⟨hlocked, hlifted⟩
          · simp [rejectPin, registerFailedAttempt] at hzero
          · rw [rejectPin, registerFailedAttempt, if_pos (hstill hlocked)] at hlifted
            cases hlifted

theorem secured_store {newPin : String} {currentPin : Option String}
    {compared : Option TransactionPin}
    (hcarries : Carries verify (.store userId newPin currentPin compared))
    (hstanding : Standing verify db (.store userId newPin currentPin compared)) :
    Secured verify o db (.store userId newPin currentPin compared) := by
  have hknows : ∀ p, pinOf db userId = some p → ∃ pin ∈ currentPin, verify p.pinHash pin = true := by
    intro p hp
    obtain ⟨existing, rfl, hsame⟩ := Option.map_eq_some_iff.mp (hstanding p hp)
    rw [← hsame]
    exact hcarries
  cases hstore : storePin o.ctx db userId (o.hash newPin) with
  | error e =>
      refine .same fun other ↦ ?_
      rw [serve, hstore]
  | ok db' =>
      have hserve : (serve verify o db (.store userId newPin currentPin compared)).1 = db' := by
        rw [serve, hstore]
      simp only [storePin, bind_eq_ok, require_eq_ok, exists_const] at hstore
      obtain ⟨-, hstore⟩ := hstore
      split at hstore
      · rw [← hserve] at hstore
        refine .updated ?_ hstore (fun p hp _ ↦ hknows p hp) fun p hp _ _ ↦ hknows p hp
        exact fun _ ↦ rfl
      · next hnone =>
          simp only [bind_eq_ok, pure_eq_ok] at hstore
          obtain ⟨pins, hinsert, rfl⟩ := hstore
          have hpin : ∀ other p, pinOf db other = some p →
              pinOf (serve verify o db (.store userId newPin currentPin compared)).1 other =
                some p := by
            intro other p hp
            rw [hserve]
            refine (congrArg (List.find? _) (insertRow_eq_ok hinsert)).trans ?_
            rw [List.find?_append]
            exact congrArg (Option.or · _) hp
          constructor
          · intro other before after hbefore hafter hne
            rw [hpin other before hbefore] at hafter
            cases hafter
            simp at hne
          · intro other before after hbefore hafter _ hclear
            rw [hpin other before hbefore] at hafter
            cases hafter
            exact absurd hclear (not_cleared rfl rfl)

/-- **One step.**  It changes a PIN only for somebody who knows it, when what it has read still
stands. -/
theorem secured (hcarries : Carries verify t) (hstanding : Standing verify db t) : Secured verify o db t := by
  cases t with
  | setPin userId pin currentPin =>
      refine .same fun other ↦ ?_
      rw [serve]
      split <;> rfl
  | check userId presented newPin =>
      refine .same fun other ↦ ?_
      rw [serve]
      split <;> rfl
  | compare => exact secured_compare hstanding
  | store => exact secured_store hcarries hstanding

/-- What a call carries along after a step. -/
theorem carries_of_serve (h : (serve verify o db t).2 = some t') : Carries verify t' := by
  cases t with
  | setPin userId pin currentPin =>
      rw [serve] at h
      split at h
      · cases h
      · cases h
        trivial
      · cases h
      · cases h
        trivial
  | check userId presented newPin =>
      rw [serve] at h
      split at h
      · cases h
      · cases h
        trivial
  | compare userId existing readAt presented newPin =>
      rw [serve] at h
      split at h
      · cases h
      · next hconclude =>
          obtain ⟨pin, rfl, rfl⟩ := Option.map_eq_some_iff.mp h
          exact ⟨presented, rfl, verify_of_concludePin (congrArg Prod.snd hconclude)⟩
  | store userId newPin currentPin compared =>
      rw [serve] at h
      split at h <;> cases h

end

/-- **A PIN is changed by those who know it.**  In every run in which each step of `setPin` still finds
what it has read, every further such step changes a PIN only for a call that came with it. -/
theorem pin_changes_secured {verify : String → String → Bool} {db : Db} {q : Pool Db PinRequest}
    (h : Reaches (Pool.advance (serve verify))
      (Pool.Admitted (fun _ t ↦ t.isCall = true) fun _ ↦ Standing verify) ⟨db, []⟩ q)
    {i : Nat} {o : PinInputs} {t : PinRequest} (hi : q.threads[i]? = some t)
    (hstanding : Standing verify q.shared t) : Secured verify o q.shared t := by
  have hholds := Pool.invariant_of_guarantees (S := fun _ ↦ True) (T := fun _ ↦ Carries verify) h
    ⟨trivial, nofun⟩ ?_ ?_
  · exact secured (hholds.threads t (List.mem_of_getElem? hi)) hstanding
  · intro _ t _ hcall
    cases t with
    | store => cases hcall
    | _ => trivial
  · exact fun o db t _ _ _ ↦ ⟨trivial, fun t' ht' ↦ carries_of_serve ht', fun _ hu ↦ hu⟩

section Sample

/-- A digest that shows its PIN, in the place of Argon2id. -/
def samplePinHash (pin : String) : String := "hash of " ++ pin

/-- The comparison that belongs to it. -/
def samplePinVerify (pinHash pin : String) : Bool := pinHash = samplePinHash pin

/-- What the step number `n` takes from outside. -/
def samplePinInputs (n : Nat) : PinInputs := ⟨⟨1000 * n, fun k ↦ .ofNat (10 * n + k)⟩, samplePinHash⟩

/-- The pool after the moves. -/
def samplePinRun (moves : List (Move PinRequest PinInputs)) : Pool Db PinRequest :=
  moves.foldl (Pool.advance (serve samplePinVerify)) ⟨.empty, []⟩

/-- A user sets a PIN, and then another for which they give the first. -/
def samplePinChange : List (Move PinRequest PinInputs) :=
  [.spawn (.setPin (.ofNat 1) "4815" none), .run 0 (samplePinInputs 1), .run 0 (samplePinInputs 2),
    .spawn (.setPin (.ofNat 1) "1623" (some "4815")), .run 0 (samplePinInputs 3),
    .run 0 (samplePinInputs 4), .run 0 (samplePinInputs 5)]

/-- Two calls set the first PIN of the user at the same time. -/
def samplePinRace : List (Move PinRequest PinInputs) :=
  [.spawn (.setPin (.ofNat 1) "4815" none), .spawn (.setPin (.ofNat 1) "1623" none),
    .run 0 (samplePinInputs 1), .run 0 (samplePinInputs 2), .run 0 (samplePinInputs 3)]

/-- The row that the step number `n` stores for the PIN. -/
def samplePin (n : Nat) (pin : String) : TransactionPin :=
  ⟨.ofNat (10 * n), .ofNat 1, samplePinHash pin, 0, none, none, 1000 * n⟩

/-- The step that is still to come of either: the second PIN is stored. -/
def samplePinStore (currentPin : Option String) (compared : Option TransactionPin) : PinRequest :=
  .store (.ofNat 1) "1623" currentPin compared

/-- The database in which the change is to be stored. -/
def samplePinKnown : Db := (samplePinRun samplePinChange).shared

/-- Storing it. -/
def samplePinKnowing : PinRequest := samplePinStore (some "4815") (some (samplePin 2 "4815"))

end Sample

theorem pin_changes_secured_sample :
    Secured samplePinVerify (samplePinInputs 6) samplePinKnown samplePinKnowing ∧
      (pinOf (serve samplePinVerify (samplePinInputs 6) samplePinKnown samplePinKnowing).1
        (.ofNat 1)).map (·.pinHash) = some (samplePinHash "1623") :=
  ⟨pin_changes_secured (i := 0) (reaches_of_allAdmitted (by decide +kernel)) (by decide +kernel)
    (by decide +kernel), by decide +kernel⟩

/-- The second of two first PINs replaces the first one, which nobody was asked for. -/
theorem pin_replaced_unasked :
    ¬ ∀ (verify : String → String → Bool) (db : Db) (q : Pool Db PinRequest) (i : Nat) (o : PinInputs)
      (t : PinRequest),
      Reaches (Pool.advance (serve verify))
        (Pool.Admitted (fun _ t ↦ t.isCall = true) fun _ _ _ ↦ True) ⟨db, []⟩ q →
      q.threads[i]? = some t → Secured verify o q.shared t := by
  intro h
  have hsecured := h samplePinVerify .empty (samplePinRun samplePinRace) 0 (samplePinInputs 4)
    (samplePinStore none none) (reaches_of_allAdmitted (by decide +kernel)) (by decide +kernel)
  obtain ⟨pin, hpin, -⟩ := hsecured.replaced (.ofNat 1) (samplePin 3 "4815")
    { samplePin 3 "1623" with changedAt := 4000 } (by decide +kernel) (by decide +kernel)
    (.inl (by decide))
  cases hpin

end AjoCloud.Auth
