import AjoCloud.Auth.PinChanges
import Mathlib.Data.List.Perm.Basic
import Mathlib.Logic.Function.Basic

/-!
# Guessing a PIN

A check of a PIN reads the row, has the PIN compared and writes the counter that follows from the row
it has read, whatever has been counted since.  A guess is a wrong PIN that a check has read the row for:
nothing keeps it from the comparison any more.
-/

namespace AjoCloud.Auth

open Lib ServiceError

/-! ## Guesses -/

/-- The database, and the guesses at each user's PIN since it was last given right or set. -/
structure PinGuesses where
  db : Db
  guesses : Uuid → Nat

section Guesses

variable (verify : String → String → Bool)

/-- The guesses after a step. -/
def guess (o : PinInputs) (s : PinGuesses) : PinRequest → Uuid → Nat
  | .setPin .. => s.guesses
  | .check userId presented _ =>
      match readPin o.ctx.now s.db userId with
      | .error _ => s.guesses
      | .ok existing =>
          if verify existing.pinHash presented then s.guesses
          else Function.update s.guesses userId (s.guesses userId + 1)
  | .compare userId existing _ presented _ =>
      if verify existing.pinHash presented then Function.update s.guesses userId 0 else s.guesses
  | .store userId .. => Function.update s.guesses userId 0

/-- A step, with the guesses. -/
def serveGuess (o : PinInputs) (s : PinGuesses) (t : PinRequest) : PinGuesses × Option PinRequest :=
  (⟨(serve verify o s.db t).1, guess verify o s t⟩, (serve verify o s.db t).2)

/-- Whose PIN the call has guessed at, if that is not counted yet. -/
def uncounted : PinRequest → Option Uuid
  | .compare userId existing _ presented _ =>
      if verify existing.pinHash presented then none else some userId
  | _ => none

/-- The guesses at a user's PIN that are not counted yet. -/
def pending (userId : Uuid) (threads : List PinRequest) : List PinRequest :=
  threads.filter fun t ↦ uncounted verify t = some userId

/-- A call is in nobody's way.  A guess is made while no other guess at that PIN waits to be counted, and
a lock is lifted by a call whose PIN was compared with the digest that is stored. -/
def Undisturbed (o : PinInputs) (p : Pool PinGuesses PinRequest) : PinRequest → Prop
  | .setPin .. => True
  | .check userId presented _ =>
      match readPin o.ctx.now p.shared.db userId with
      | .error _ => True
      | .ok existing =>
          verify existing.pinHash presented = false → ∀ t ∈ p.threads, uncounted verify t ≠ some userId
  | .compare userId existing _ presented _ =>
      verify existing.pinHash presented = true → HasFailures existing →
        ∀ stored ∈ pinOf p.shared.db userId, stored.lockedUntil.isSome →
          stored.pinHash = existing.pinHash
  | .store userId _ _ compared =>
      ∀ stored ∈ pinOf p.shared.db userId, stored.lockedUntil.isSome →
        compared.map (·.pinHash) = some stored.pinHash

instance (o : PinInputs) (p : Pool PinGuesses PinRequest) (t : PinRequest) :
    Decidable (Undisturbed verify o p t) := by
  refine PinRequest.casesOn t (fun _ _ _ ↦ ?_) (fun userId _ _ ↦ ?_) (fun _ _ _ _ _ ↦ ?_)
    fun _ _ _ _ ↦ ?_
  · exact inferInstanceAs (Decidable True)
  · dsimp only [Undisturbed]
    refine Except.casesOn (readPin o.ctx.now p.shared.db userId) (fun _ ↦ ?_) fun _ ↦ ?_
    · exact inferInstanceAs (Decidable True)
    · dsimp only
      infer_instance
  · dsimp only [Undisturbed]
    infer_instance
  · dsimp only [Undisturbed]
    infer_instance

/-- Nobody is disturbed, and no guess is lost before it is counted. -/
def InTurn (p : Pool PinGuesses PinRequest) : Move PinRequest PinInputs → Prop
  | .spawn t => t.isCall = true
  | .run i o => ∀ t ∈ p.threads[i]?, Undisturbed verify o p t
  | .stop i => ∀ t ∈ p.threads[i]?, uncounted verify t = none

instance (p : Pool PinGuesses PinRequest) (m : Move PinRequest PinInputs) :
    Decidable (InTurn verify p m) := by
  unfold InTurn
  split <;> infer_instance

end Guesses

/-- While no lock is set, there have been five guesses at most. -/
def Bounded (s : PinGuesses) : Prop :=
  ∀ userId, ∀ stored ∈ pinOf s.db userId, stored.lockedUntil = none →
    s.guesses userId ≤ transactionPinMaxAttempts

/-- A step leaves every lock in force, or comes with the right PIN. -/
def LocksStand (verify : String → String → Bool) (o : PinInputs) (db : Db) (t : PinRequest) : Prop :=
  ∀ userId before after lock, pinOf db userId = some before →
    pinOf (serve verify o db t).1 userId = some after → before.lockedUntil = some lock →
    (∃ later ∈ after.lockedUntil, lock ≤ later) ∨
      ∃ pin ∈ t.presented, verify before.pinHash pin = true

/-! ## The counter keeps up -/

/-- A lock comes from the five attempts before it. -/
def LockCounted (p : TransactionPin) : Prop :=
  p.lockedUntil.isSome → transactionPinMaxAttempts ≤ p.failedCount

/-- The counter of the stored PIN has every guess, but for the one that is pending. -/
inductive Tallied (userId : Uuid) (stored : Option TransactionPin) (guesses : Nat) :
    List PinRequest → Prop
  /-- Nothing is pending. -/
  | rested (counts : ∀ p ∈ stored, guesses ≤ p.failedCount)
      (few : ∀ p ∈ stored, p.lockedUntil = none → guesses < transactionPinMaxAttempts) :
      Tallied userId stored guesses []
  /-- One guess is pending.  Its row was not locked when it was read, and only a lock that was there has
  stayed. -/
  | underWay {existing : TransactionPin} {readAt : Timestamp} {presented : String}
      {newPin : Option String} (unlocked : isPinLocked existing.lockedUntil readAt = false)
      (lock : LockCounted existing) (counts : guesses ≤ existing.failedCount + 1)
      (few : ∀ p ∈ stored, p.lockedUntil = none → guesses ≤ transactionPinMaxAttempts)
      (stays : ∀ p ∈ stored, p.lockedUntil = none ∨ p.lockedUntil = existing.lockedUntil) :
      Tallied userId stored guesses [.compare userId existing readAt presented newPin]

namespace Tallied

variable {userId : Uuid} {stored stored' : Option TransactionPin} {guesses : Nat}
  {threads threads' : List PinRequest}

theorem bounded (h : Tallied userId stored guesses threads) :
    ∀ p ∈ stored, p.lockedUntil = none → guesses ≤ transactionPinMaxAttempts := by
  intro p hp hnone
  cases h with
  | rested _ few => exact (few p hp hnone).le
  | underWay _ _ _ few _ => exact few p hp hnone

theorem perm (h : Tallied userId stored guesses threads) (hperm : threads'.Perm threads) :
    Tallied userId stored guesses threads' := by
  cases h with
  | rested counts few =>
      rw [hperm.eq_nil]
      exact .rested counts few
  | underWay unlocked lock counts few stays =>
      rw [hperm.eq_singleton]
      exact .underWay unlocked lock counts few stays

/-- What clears the counter and the lock, or only the guesses. -/
theorem proved (h : Tallied userId stored guesses threads)
    (hlock : ∀ p' ∈ stored', p'.lockedUntil = none ∨ ∃ p ∈ stored, p'.lockedUntil = p.lockedUntil) :
    Tallied userId stored' 0 threads := by
  cases h with
  | rested counts few =>
      exact .rested (fun _ _ ↦ Nat.zero_le _) fun _ _ _ ↦ by decide
  | underWay unlocked lock counts few stays =>
      refine .underWay unlocked lock (Nat.zero_le _) (fun _ _ _ ↦ Nat.zero_le _) fun p' hp' ↦ ?_
      obtain hnone | ⟨p, hp, hsame⟩ := hlock p' hp'
      · exact .inl hnone
      · rw [hsame]
        exact stays p hp

/-- A guess is made. -/
theorem guessed {existing : TransactionPin} {readAt : Timestamp} {presented : String}
    {newPin : Option String} (h : Tallied userId (some existing) guesses [])
    (hunlocked : isPinLocked existing.lockedUntil readAt = false) (hlock : LockCounted existing) :
    Tallied userId (some existing) (guesses + 1)
      [.compare userId existing readAt presented newPin] := by
  cases h with
  | rested counts few =>
      refine .underWay hunlocked hlock (Nat.succ_le_succ (counts existing rfl)) ?_ ?_
      · intro p hp hnone
        exact few p hp hnone
      · rintro p hp
        cases hp
        exact .inr rfl

/-- The guess that was pending is counted. -/
theorem counted {existing : TransactionPin} {readAt : Timestamp} {presented : String}
    {newPin : Option String}
    (h : Tallied userId stored guesses [.compare userId existing readAt presented newPin]) :
    Tallied userId (stored.map (rejectPin readAt existing)) guesses [] := by
  cases h with
  | underWay unlocked lock counts few stays =>
      constructor
      · intro p' hp'
        obtain ⟨p, -, rfl⟩ := Option.map_eq_some_iff.mp hp'
        exact counts
      · intro p' hp' hnone
        obtain ⟨p, -, rfl⟩ := Option.map_eq_some_iff.mp hp'
        have hfew : ¬ transactionPinMaxAttempts ≤ existing.failedCount + 1 := by
          intro hle
          rw [rejectPin, registerFailedAttempt, if_pos hle] at hnone
          cases hnone
        exact counts.trans_lt (Nat.lt_of_not_le hfew)

end Tallied

/-! ## What a step writes -/

section Writes

variable {verify : String → String → Bool} {o : PinInputs} {db db' : Db} {userId other : Uuid}

/-- An update that fails has met no row. -/
theorem pinOf_of_error {f : TransactionPin → TransactionPin} {e : ServiceError}
    (keep : ∀ {a b}, Schema.Clash (f a) b → Schema.Clash a b)
    (h : updatePin db userId f = .error e) : pinOf db userId = none := by
  cases hfind : pinOf db userId with
  | none => rfl
  | some p =>
      obtain ⟨pins, hpins⟩ := exists_updateRow (Table.mem_of_find? hfind)
        (Table.prop_of_find? hfind) keep
      rw [updatePin, hpins] at h
      cases h

theorem clash_of_acceptPin {now : Timestamp} {existing a b : TransactionPin}
    (h : Schema.Clash (acceptPin now existing a) b) : Schema.Clash a b := by
  unfold acceptPin at h
  split at h
  · exact h
  · exact h

/-- What a check writes, as every lookup sees it. -/
theorem pinOf_concludePin {now : Timestamp} {existing : TransactionPin} {presented : String} :
    pinOf (concludePin verify now db userId existing presented).1 other =
      (pinOf db other).map fun p ↦
        if p.userId = userId then
          if verify existing.pinHash presented then acceptPin now existing p
          else rejectPin now existing p
        else p := by
  have hmissing : pinOf db userId = none → pinOf db other = (pinOf db other).map fun p ↦
      if p.userId = userId then
        if verify existing.pinHash presented then acceptPin now existing p
        else rejectPin now existing p
      else p := by
    intro hnone
    cases hother : pinOf db other with
    | none => rfl
    | some p =>
        have hne : p.userId ≠ userId := by
          rintro rfl
          rw [userId_of_pinOf hother, hother] at hnone
          cases hnone
        rw [Option.map_some, if_neg hne]
  by_cases hright : verify existing.pinHash presented = true
  · rw [concludePin, if_pos hright]
    cases hupdate : updatePin db userId (acceptPin now existing) with
    | ok db' => simpa [hright] using pinOf_updatePin (by simp) hupdate other
    | error e => exact hmissing (pinOf_of_error clash_of_acceptPin hupdate)
  · rw [concludePin, if_neg hright]
    cases hupdate : updatePin db userId (rejectPin now existing) with
    | ok db' => simpa [hright] using pinOf_updatePin (by simp [rejectPin]) hupdate other
    | error e => exact hmissing (pinOf_of_error (f := rejectPin now existing) id hupdate)

/-- A PIN that is stored has neither failures nor a lock. -/
theorem pinOf_storePin {ctx : Ctx} {pinHash : String} (h : storePin ctx db userId pinHash = .ok db') :
    pinOf db' other = pinOf db other ∨
      other = userId ∧ ∀ p ∈ pinOf db' other, p.failedCount = 0 ∧ p.lockedUntil = none := by
  simp only [storePin, bind_eq_ok, require_eq_ok, exists_const] at h
  obtain ⟨-, h⟩ := h
  split at h
  · have hpin := pinOf_updatePin (fun p ↦ by rfl) h other
    by_cases hown : other = userId
    · refine .inr ⟨hown, fun p' hp' ↦ ?_⟩
      rw [hpin] at hp'
      obtain ⟨p, hp, rfl⟩ := Option.map_eq_some_iff.mp hp'
      rw [if_pos ((userId_of_pinOf hp).trans hown)]
      exact ⟨rfl, rfl⟩
    · refine .inl (hpin.trans ?_)
      cases hp : pinOf db other with
      | none => rfl
      | some p =>
          rw [Option.map_some, if_neg]
          exact fun heq ↦ hown ((userId_of_pinOf hp).symm.trans heq)
  · next hnone =>
      simp only [bind_eq_ok, pure_eq_ok] at h
      obtain ⟨pins, hinsert, rfl⟩ := h
      have hpin : pinOf { db with kyc := { db.kyc with transactionPins := pins } } other =
          (pinOf db other).or
            ([⟨ctx.uuid 0, userId, pinHash, 0, none, none, ctx.now⟩].find? fun p ↦ p.userId = other) := by
        refine (congrArg (List.find? _) (insertRow_eq_ok hinsert)).trans ?_
        rw [List.find?_append]
        rfl
      by_cases hown : other = userId
      · refine .inr ⟨hown, fun p hp ↦ ?_⟩
        rw [hpin, hown, hnone, Option.none_or] at hp
        rw [List.mem_singleton.mp (List.mem_of_find?_eq_some hp)]
        exact ⟨rfl, rfl⟩
      · left
        rw [hpin, List.find?_singleton, if_neg (by simpa using Ne.symm hown), Option.or_none]

end Writes

/-! ## Every step -/

section Steps

variable {verify : String → String → Bool} {o : PinInputs} {db : Db} {t t' : PinRequest}
  {userId : Uuid} {threads : List PinRequest} {next : Option PinRequest} {i : Nat}
  {p : Pool PinGuesses PinRequest}

theorem pinOf_of_readPin {now : Timestamp} {existing : TransactionPin}
    (h : readPin now db userId = .ok existing) : pinOf db userId = some existing := by
  simp only [readPin, bind_eq_ok, orThrow_eq_ok, pure_eq_ok] at h
  obtain ⟨_, hfind, _, -, rfl⟩ := h
  exact hfind

/-- A guess is left by a check that has read the row. -/
theorem readPin_of_uncounted (hserve : (serve verify o db t).2 = some t')
    (h : uncounted verify t' = some userId) :
    ∃ existing presented newPin, t = .check userId presented newPin ∧
      readPin o.ctx.now db userId = .ok existing ∧ verify existing.pinHash presented = false := by
  cases t with
  | setPin user pin currentPin =>
      rw [serve] at hserve
      split at hserve
      · cases hserve
      · cases hserve
        cases h
      · cases hserve
      · cases hserve
        cases h
  | check user presented newPin =>
      rw [serve] at hserve
      split at hserve
      · cases hserve
      · next existing hread =>
          cases hserve
          rw [uncounted] at h
          split at h
          · cases h
          · next hwrong =>
              cases h
              exact ⟨existing, presented, newPin, rfl, hread, by simpa using hwrong⟩
  | compare user existing readAt presented newPin =>
      rw [serve] at hserve
      split at hserve
      · cases hserve
      · obtain ⟨pin, -, rfl⟩ := Option.map_eq_some_iff.mp hserve
        cases h
  | store user newPin currentPin compared =>
      rw [serve] at hserve
      split at hserve <;> cases hserve

/-- Only a check leaves a guess. -/
theorem not_uncounted_of_serve (ht : ∀ user presented newPin, t ≠ .check user presented newPin) :
    ∀ t' ∈ (serve verify o db t).2, uncounted verify t' ≠ some userId := by
  intro t' ht' hguess
  obtain ⟨_, _, _, heq, -⟩ := readPin_of_uncounted ht' hguess
  exact ht _ _ _ heq

theorem pending_eq_nil (h : ∀ t ∈ threads, uncounted verify t ≠ some userId) :
    pending verify userId threads = [] := by
  refine List.filter_eq_nil_iff.mpr fun t ht ↦ ?_
  simpa using h t ht

/-- The thread at the position, and the others. -/
theorem perm_pending (hi : threads[i]? = some t) :
    (pending verify userId (t :: threads.eraseIdx i)).Perm (pending verify userId threads) := by
  obtain ⟨hlt, rfl⟩ := List.getElem?_eq_some_iff.mp hi
  exact (List.getElem_cons_eraseIdx_perm hlt).filter _

/-- Without the thread at the position, which is no guess. -/
theorem perm_pending_eraseIdx (hi : threads[i]? = some t) (ht : uncounted verify t ≠ some userId) :
    (pending verify userId (threads.eraseIdx i)).Perm (pending verify userId threads) := by
  have hperm : (pending verify userId (t :: threads.eraseIdx i)).Perm _ := perm_pending hi
  rw [pending, List.filter_cons_of_neg (by simpa using ht)] at hperm
  exact hperm

theorem pending_append (hnext : ∀ t' ∈ next, uncounted verify t' ≠ some userId) :
    pending verify userId (threads ++ next.toList) = pending verify userId threads := by
  have hnil : pending verify userId next.toList = [] :=
    pending_eq_nil fun t' ht' ↦ hnext t' (Option.mem_toList.mp ht')
  rw [pending, List.filter_append]
  exact (congrArg _ hnil).trans (List.append_nil _)

/-- What every run keeps. -/
structure PinsCounted (verify : String → String → Bool) (p : Pool PinGuesses PinRequest) : Prop where
  locks : ∀ userId, ∀ stored ∈ pinOf p.shared.db userId, LockCounted stored
  carries : ∀ t ∈ p.threads, Carries verify t
  tallied : ∀ userId, Tallied userId (pinOf p.shared.db userId) (p.shared.guesses userId)
    (pending verify userId p.threads)

theorem serve_setPin {pin : String} {currentPin : Option String} :
    (serve verify o db (.setPin userId pin currentPin)).1 = db := by
  rw [serve]
  split <;> rfl

theorem serve_check {presented : String} {newPin : Option String} :
    (serve verify o db (.check userId presented newPin)).1 = db := by
  rw [serve]
  split <;> rfl

/-- What `store` leaves of a user's row. -/
theorem pinOf_serve_store (verify : String → String → Bool) (o : PinInputs) (db : Db)
    (userId user : Uuid) (newPin : String) (currentPin : Option String)
    (compared : Option TransactionPin) :
    pinOf (serve verify o db (.store user newPin currentPin compared)).1 userId = pinOf db userId ∨
      userId = user ∧ ∀ p ∈ pinOf (serve verify o db (.store user newPin currentPin compared)).1 userId,
        p.failedCount = 0 ∧ p.lockedUntil = none := by
  cases hstore : storePin o.ctx db user (o.hash newPin) with
  | error e =>
      left
      rw [serve, hstore]
  | ok db' =>
      have hserve : (serve verify o db (.store user newPin currentPin compared)).1 = db' := by
        rw [serve, hstore]
      rw [hserve]
      exact pinOf_storePin hstore

/-- A step that is nobody's guess and counts none. -/
theorem Tallied.quiet {stored : Option TransactionPin} {guesses : Nat} (next : Option PinRequest)
    (h : Tallied userId stored guesses (pending verify userId threads)) (hi : threads[i]? = some t)
    (ht : uncounted verify t ≠ some userId) (hnext : ∀ t' ∈ next, uncounted verify t' ≠ some userId) :
    Tallied userId stored guesses (pending verify userId (threads.eraseIdx i ++ next.toList)) := by
  rw [pending_append hnext]
  exact h.perm (perm_pending_eraseIdx hi ht)

section Check

variable {user : Uuid} {presented : String} {newPin : Option String} {existing : TransactionPin}

theorem serve_check_of_ok (hread : readPin o.ctx.now db user = .ok existing) :
    serve verify o db (.check user presented newPin) =
      (db, some (.compare user existing o.ctx.now presented newPin)) := by
  rw [serve, hread]

/-- A check that has read the row makes a guess, unless the PIN is right. -/
theorem guess_check {s : PinGuesses} (hread : readPin o.ctx.now s.db user = .ok existing) :
    guess verify o s (.check user presented newPin) userId =
      if user = userId ∧ verify existing.pinHash presented = false then s.guesses userId + 1
      else s.guesses userId := by
  rw [guess, hread]
  cases hright : verify existing.pinHash presented with
  | true => simp [hright]
  | false =>
      by_cases hown : user = userId
      · simp [hright, hown]
      · simp [hright, hown, Function.update_of_ne (Ne.symm hown)]

/-- A guess is made while none is pending. -/
theorem Tallied.check {stored : Option TransactionPin} {guesses : Nat} {now : Timestamp}
    (h : Tallied userId stored guesses (pending verify userId threads))
    (hread : stored = some existing) (hunlocked : isPinLocked existing.lockedUntil now = false)
    (hlock : LockCounted existing) (hwrong : verify existing.pinHash presented = false)
    (hturn : ∀ t ∈ threads, uncounted verify t ≠ some userId) :
    Tallied userId stored (guesses + 1) (pending verify userId
      (threads.eraseIdx i ++ [.compare userId existing now presented newPin])) := by
  have hothers : pending verify userId (threads.eraseIdx i) = [] :=
    pending_eq_nil fun t ht ↦ hturn t (List.mem_of_mem_eraseIdx ht)
  have hpending : pending verify userId
      (threads.eraseIdx i ++ [.compare userId existing now presented newPin]) =
      [.compare userId existing now presented newPin] := by
    refine (List.filter_append ..).trans ((congrArg (· ++ _) hothers).trans ?_)
    simp [uncounted, hwrong]
  rw [pending_eq_nil hturn, hread] at h
  rw [hpending, hread]
  exact h.guessed hunlocked hlock

theorem tallied_check (h : PinsCounted verify p) (hi : p.threads[i]? = some (.check user presented newPin))
    (hturn : Undisturbed verify o p (.check user presented newPin)) :
    Tallied userId (pinOf (serve verify o p.shared.db (.check user presented newPin)).1 userId)
      (guess verify o p.shared (.check user presented newPin) userId)
      (pending verify userId (p.threads.eraseIdx i ++
        (serve verify o p.shared.db (.check user presented newPin)).2.toList)) := by
  cases hread : readPin o.ctx.now p.shared.db user with
  | error e =>
      rw [guess, serve, hread]
      exact (h.tallied userId).quiet none hi (by rintro ⟨⟩) (by simp)
  | ok existing =>
      rw [Undisturbed, hread] at hturn
      rw [guess_check hread, serve_check_of_ok hread]
      split
      · next hguess =>
          obtain ⟨rfl, hwrong⟩ := hguess
          have hrow := pinOf_of_readPin hread
          exact (h.tallied user).check hrow (readPin_eq_ok hread).2.2 (h.locks user existing hrow)
            hwrong (hturn hwrong)
      · next hquiet =>
          refine (h.tallied userId).quiet _ hi (by rintro ⟨⟩) fun t' ht' ↦ ?_
          cases ht'
          rw [uncounted]
          split
          · rintro ⟨⟩
          · next hwrong => exact fun heq ↦ hquiet ⟨Option.some.inj heq, by simpa using hwrong⟩

end Check

section Compare

variable {user : Uuid} {presented : String} {newPin : Option String} {existing : TransactionPin}
  {readAt : Timestamp}

/-- What a comparison makes of the row of its user. -/
theorem pinOf_serve_compare :
    pinOf (serve verify o db (.compare user existing readAt presented newPin)).1 user =
      (pinOf db user).map (if verify existing.pinHash presented then acceptPin readAt existing
        else rejectPin readAt existing) := by
  rw [serve_compare, pinOf_concludePin]
  refine Option.map_congr fun p hp ↦ ?_
  rw [if_pos (userId_of_pinOf hp)]
  split <;> rfl

theorem pinOf_serve_compare_of_ne (hne : userId ≠ user) :
    pinOf (serve verify o db (.compare user existing readAt presented newPin)).1 userId =
      pinOf db userId := by
  rw [serve_compare, pinOf_concludePin]
  refine (Option.map_congr fun p hp ↦ ?_).trans Option.map_id'
  rw [if_neg (fun heq ↦ hne ((userId_of_pinOf hp).symm.trans heq))]

/-- A right PIN leaves a lock as it is, or none. -/
theorem lockedUntil_acceptPin (now : Timestamp) (existing p : TransactionPin) :
    (acceptPin now existing p).lockedUntil = none ∨
      (acceptPin now existing p).lockedUntil = p.lockedUntil := by
  rw [acceptPin]
  split
  · exact .inl rfl
  · exact .inr rfl

/-- A guess that is pending is the only one at that PIN. -/
theorem PinsCounted.alone (h : PinsCounted verify p)
    (hi : p.threads[i]? = some (.compare user existing readAt presented newPin))
    (hwrong : verify existing.pinHash presented = false) :
    Tallied user (pinOf p.shared.db user) (p.shared.guesses user)
      [.compare user existing readAt presented newPin] ∧
        pending verify user (p.threads.eraseIdx i) = [] := by
  have hpending : pending verify user
      (.compare user existing readAt presented newPin :: p.threads.eraseIdx i) =
      .compare user existing readAt presented newPin :: pending verify user (p.threads.eraseIdx i) :=
    List.filter_cons_of_pos (by simp [uncounted, hwrong])
  have htallied := (h.tallied user).perm (perm_pending hi)
  rw [hpending] at htallied
  generalize pending verify user (p.threads.eraseIdx i) = others at htallied ⊢
  have hnone : others = [] := by
    cases htallied
    rfl
  subst hnone
  exact ⟨htallied, rfl⟩

theorem tallied_compare
    (h : PinsCounted verify p) (hi : p.threads[i]? = some (.compare user existing readAt presented newPin)) :
    Tallied userId
      (pinOf (serve verify o p.shared.db (.compare user existing readAt presented newPin)).1 userId)
      (guess verify o p.shared (.compare user existing readAt presented newPin) userId)
      (pending verify userId (p.threads.eraseIdx i ++
        (serve verify o p.shared.db (.compare user existing readAt presented newPin)).2.toList)) := by
  have hnext : ∀ t' ∈ (serve verify o p.shared.db (.compare user existing readAt presented newPin)).2,
      uncounted verify t' ≠ some userId := not_uncounted_of_serve nofun
  have htallied := h.tallied userId
  by_cases hown : userId = user
  · subst hown
    rw [pinOf_serve_compare]
    cases hright : verify existing.pinHash presented with
    | true =>
        have hquiet := htallied.quiet _ hi (by simp [uncounted, hright]) hnext
        rw [guess, if_pos hright, Function.update_self, if_pos rfl]
        refine hquiet.proved fun p' hp' ↦ ?_
        obtain ⟨stored, hstored, rfl⟩ := Option.map_eq_some_iff.mp hp'
        obtain hnone | hsame := lockedUntil_acceptPin readAt existing stored
        · exact .inl hnone
        · exact .inr ⟨stored, hstored, hsame⟩
    | false =>
        obtain ⟨halone, hothers⟩ := h.alone hi hright
        rw [guess, hright, pending_append hnext, hothers]
        exact halone.counted
  · have hother : uncounted verify (.compare user existing readAt presented newPin) ≠ some userId := by
      rw [uncounted]
      split
      · nofun
      · exact fun heq ↦ hown (Option.some.inj heq).symm
    have hguess : guess verify o p.shared (.compare user existing readAt presented newPin) userId =
        p.shared.guesses userId := by
      rw [guess]
      split
      · exact Function.update_of_ne hown ..
      · rfl
    rw [pinOf_serve_compare_of_ne hown, hguess]
    exact htallied.quiet _ hi hother hnext

end Compare

theorem tallied_store {user : Uuid} {newPin : String} {currentPin : Option String}
    {compared : Option TransactionPin} (h : PinsCounted verify p)
    (hi : p.threads[i]? = some (.store user newPin currentPin compared)) :
    Tallied userId (pinOf (serve verify o p.shared.db (.store user newPin currentPin compared)).1 userId)
      (guess verify o p.shared (.store user newPin currentPin compared) userId)
      (pending verify userId (p.threads.eraseIdx i ++
        (serve verify o p.shared.db (.store user newPin currentPin compared)).2.toList)) := by
  have hquiet := (h.tallied userId).quiet
    (serve verify o p.shared.db (.store user newPin currentPin compared)).2 hi nofun
    (not_uncounted_of_serve nofun)
  have hrow := pinOf_serve_store verify o p.shared.db userId user newPin currentPin compared
  by_cases hown : userId = user
  · subst hown
    rw [guess, Function.update_self]
    refine hquiet.proved fun p' hp' ↦ ?_
    obtain hsame | ⟨-, hcleared⟩ := hrow
    · rw [hsame] at hp'
      exact .inr ⟨p', hp', rfl⟩
    · exact .inl (hcleared p' hp').2
  · rw [guess, Function.update_of_ne hown]
    obtain hsame | ⟨heq, -⟩ := hrow
    · rw [hsame]
      exact hquiet
    · exact absurd heq hown

/-- Every step keeps the tally. -/
theorem tallied_run (h : PinsCounted verify p) (hi : p.threads[i]? = some t)
    (hturn : Undisturbed verify o p t) :
    Tallied userId (pinOf (serve verify o p.shared.db t).1 userId) (guess verify o p.shared t userId)
      (pending verify userId (p.threads.eraseIdx i ++ (serve verify o p.shared.db t).2.toList)) := by
  cases t with
  | setPin user pin currentPin =>
      rw [serve_setPin, guess]
      exact (h.tallied userId).quiet _ hi nofun (not_uncounted_of_serve nofun)
  | check => exact tallied_check h hi hturn
  | compare => exact tallied_compare h hi
  | store => exact tallied_store h hi

/-- Every step keeps what locks come from. -/
theorem lockCounted_serve (h : ∀ userId, ∀ stored ∈ pinOf db userId, LockCounted stored) :
    ∀ stored ∈ pinOf (serve verify o db t).1 userId, LockCounted stored := by
  cases t with
  | setPin =>
      rw [serve_setPin]
      exact h userId
  | check =>
      rw [serve_check]
      exact h userId
  | compare user existing readAt presented newPin =>
      by_cases hown : userId = user
      · subst hown
        rw [pinOf_serve_compare]
        intro p' hp'
        obtain ⟨stored, hstored, rfl⟩ := Option.map_eq_some_iff.mp hp'
        split
        · rw [acceptPin]
          split
          · rintro ⟨⟩
          · exact h userId stored hstored
        · intro hlocked
          rw [rejectPin, registerFailedAttempt] at hlocked ⊢
          by_contra hfew
          rw [if_neg hfew] at hlocked
          cases hlocked
      · rw [pinOf_serve_compare_of_ne hown]
        exact h userId
  | store user newPin currentPin compared =>
      obtain hsame | ⟨-, hcleared⟩ :=
        pinOf_serve_store verify o db userId user newPin currentPin compared
      · rw [hsame]
        exact h userId
      · intro p' hp' hlocked
        rw [(hcleared p' hp').2] at hlocked
        cases hlocked

theorem PinsCounted.advance (h : PinsCounted verify p) (m : Move PinRequest PinInputs)
    (hm : InTurn verify p m) : PinsCounted verify (p.advance (serveGuess verify) m) := by
  rcases m with t | ⟨i, o⟩ | i
  · have hquiet : uncounted verify t = none := by
      cases t with
      | compare => cases hm
      | _ => rfl
    refine ⟨h.locks, fun t' ht' ↦ ?_, fun userId ↦ ?_⟩
    · rcases List.mem_append.mp ht' with ht' | ht'
      · exact h.carries t' ht'
      · rw [List.mem_singleton.mp ht']
        cases t with
        | store => cases hm
        | _ => trivial
    · have hsame : pending verify userId (p.threads ++ (some t).toList) =
          pending verify userId p.threads := pending_append (by simp [hquiet])
      exact hsame ▸ h.tallied userId
  · cases hi : p.threads[i]? with
    | none =>
        rw [Pool.advance, hi]
        exact h
    | some t =>
        have hstate : p.advance (serveGuess verify) (.run i o) =
            ⟨(serveGuess verify o p.shared t).1,
              p.threads.eraseIdx i ++ (serveGuess verify o p.shared t).2.toList⟩ := by
          rw [Pool.advance, hi]
        rw [hstate]
        refine ⟨fun userId ↦ lockCounted_serve h.locks, fun t' ht' ↦ ?_, fun userId ↦ ?_⟩
        · rcases List.mem_append.mp ht' with ht' | ht'
          · exact h.carries t' (List.mem_of_mem_eraseIdx ht')
          · exact carries_of_serve (Option.mem_toList.mp ht')
        · exact tallied_run h hi (hm t hi)
  · refine ⟨h.locks, fun t' ht' ↦ h.carries t' (List.mem_of_mem_eraseIdx ht'), fun userId ↦ ?_⟩
    cases hi : p.threads[i]? with
    | none =>
        rw [Pool.advance, List.eraseIdx_of_length_le (List.getElem?_eq_none_iff.mp hi)]
        exact h.tallied userId
    | some t =>
        refine (h.tallied userId).perm (perm_pending_eraseIdx hi ?_)
        rw [hm t hi]
        simp

/-- A step that leaves the row as it is. -/
theorem stands_of_same {before after : TransactionPin} {lock : Timestamp} {q : Prop}
    (hbefore : pinOf db userId = some before) (hafter : pinOf db userId = some after)
    (hlock : before.lockedUntil = some lock) : (∃ later ∈ after.lockedUntil, lock ≤ later) ∨ q := by
  rw [hbefore] at hafter
  cases hafter
  exact .inl ⟨lock, hlock, le_rfl⟩

theorem locksStand_compare {user : Uuid} {presented : String} {newPin : Option String}
    {existing : TransactionPin} {readAt : Timestamp} (h : PinsCounted verify p)
    (hi : p.threads[i]? = some (.compare user existing readAt presented newPin))
    (hturn : Undisturbed verify o p (.compare user existing readAt presented newPin)) :
    LocksStand verify o p.shared.db (.compare user existing readAt presented newPin) := by
  intro userId before after lock hbefore hafter hlock
  by_cases hown : userId = user
  · subst hown
    rw [pinOf_serve_compare, hbefore, Option.map_some, Option.some_inj] at hafter
    subst hafter
    cases hright : verify existing.pinHash presented with
    | true =>
        by_cases hfailures : HasFailures existing
        · have hdigest := hturn hright hfailures before hbefore (by simp [hlock])
          exact .inr ⟨presented, rfl, hdigest ▸ hright⟩
        · have hkeeps : acceptPin readAt existing before = { before with lastUsedAt := some readAt } := by
            rw [acceptPin, if_neg]
            simpa [HasFailures] using hfailures
          rw [if_pos rfl, hkeeps]
          exact .inl ⟨lock, hlock, le_rfl⟩
    | false =>
        cases (h.alone hi hright).1 with
        | underWay unlocked counted counts few stays =>
            -- The lock was there when the row was read, and had run out.
            have hread : existing.lockedUntil = some lock := by
              obtain hnone | hsame := stays before hbefore
              · rw [hlock] at hnone
                cases hnone
              · rw [← hsame, hlock]
            have hfive : transactionPinMaxAttempts ≤ existing.failedCount + 1 :=
              (counted (by rw [hread]; rfl)).trans (Nat.le_succ _)
            have hpast : lock ≤ readAt := by simpa [isPinLocked, hread] using unlocked
            refine .inl ⟨readAt + transactionPinLockMs, ?_, hpast.trans ?_⟩
            · rw [if_neg (by simp), rejectPin, registerFailedAttempt, if_pos hfive]
              rfl
            · exact Int.le_add_of_nonneg_right (by decide)
  · rw [pinOf_serve_compare_of_ne hown] at hafter
    exact stands_of_same hbefore hafter hlock

theorem locksStand_store {user : Uuid} {newPin : String} {currentPin : Option String}
    {compared : Option TransactionPin} (h : PinsCounted verify p)
    (hi : p.threads[i]? = some (.store user newPin currentPin compared))
    (hturn : Undisturbed verify o p (.store user newPin currentPin compared)) :
    LocksStand verify o p.shared.db (.store user newPin currentPin compared) := by
  intro userId before after lock hbefore hafter hlock
  obtain hsame | ⟨rfl, -⟩ :=
    pinOf_serve_store verify o p.shared.db userId user newPin currentPin compared
  · rw [hsame] at hafter
    exact stands_of_same hbefore hafter hlock
  · obtain ⟨row, rfl, hdigest⟩ := Option.map_eq_some_iff.mp (hturn before hbefore (by simp [hlock]))
    obtain ⟨pin, hpin, hright⟩ := h.carries _ (List.mem_of_getElem? hi)
    exact .inr ⟨pin, hpin, hdigest ▸ hright⟩

/-- **One step.**  When it disturbs nobody, it lifts or shortens a lock only for the right PIN. -/
theorem locksStand (h : PinsCounted verify p) (hi : p.threads[i]? = some t)
    (hturn : Undisturbed verify o p t) : LocksStand verify o p.shared.db t := by
  cases t with
  | setPin =>
      intro userId before after lock hbefore hafter hlock
      rw [serve_setPin] at hafter
      exact stands_of_same hbefore hafter hlock
  | check =>
      intro userId before after lock hbefore hafter hlock
      rw [serve_check] at hafter
      exact stands_of_same hbefore hafter hlock
  | compare => exact locksStand_compare h hi hturn
  | store => exact locksStand_store h hi hturn

end Steps

/-- **Guesses are bounded, one at a time.**  In every run in which no call disturbs another, at most five
wrong PINs are compared before a lock is set, and a further such step lifts or shortens a lock only for
the right PIN. -/
theorem pin_guesses_bounded {verify : String → String → Bool} {db : Db} {q : Pool PinGuesses PinRequest}
    (hlocks : ∀ userId, ∀ stored ∈ pinOf db userId, LockCounted stored)
    (h : Reaches (Pool.advance (serveGuess verify)) (InTurn verify) ⟨⟨db, fun _ ↦ 0⟩, []⟩ q) :
    Bounded q.shared ∧ ∀ (i : Nat) (o : PinInputs) (t : PinRequest), q.threads[i]? = some t →
      Undisturbed verify o q t → LocksStand verify o q.shared.db t := by
  have hstart : PinsCounted verify ⟨⟨db, fun _ ↦ 0⟩, []⟩ := by
    refine ⟨hlocks, List.forall_mem_nil _, fun userId ↦ ?_⟩
    exact .rested (fun _ _ ↦ Nat.zero_le _) fun _ _ _ ↦ Nat.succ_pos 4
  have hguarded : PinsCounted verify q := h.invariant hstart fun p m hp hm ↦ hp.advance m hm
  exact ⟨fun userId ↦ (hguarded.tallied userId).bounded, fun _ _ _ hi hturn ↦ locksStand hguarded hi hturn⟩

section Sample

/-- The pool before any call. -/
def sampleUnguessed : Pool PinGuesses PinRequest := ⟨⟨.empty, fun _ ↦ 0⟩, []⟩

/-- The pool after the moves. -/
def sampleGuessRun (moves : List (Move PinRequest PinInputs)) : Pool PinGuesses PinRequest :=
  moves.foldl (Pool.advance (serveGuess samplePinVerify)) sampleUnguessed

/-- A user sets their PIN. -/
def sampleFirstPin : List (Move PinRequest PinInputs) :=
  [.spawn (.setPin (.ofNat 1) "4815" none), .run 0 (samplePinInputs 1), .run 0 (samplePinInputs 2)]

/-- A check of a wrong PIN. -/
def sampleWrongCheck : PinRequest := .check (.ofNat 1) "1623" none

/-- A wrong PIN is checked, all at once. -/
def sampleOneGuess (n : Nat) : List (Move PinRequest PinInputs) :=
  [.spawn sampleWrongCheck, .run 0 (samplePinInputs n), .run 0 (samplePinInputs n)]

/-- Five times in a row, and the right PIN a quarter of an hour later, which is to be compared. -/
def sampleGuessesInTurn : List (Move PinRequest PinInputs) :=
  sampleFirstPin ++ [3, 4, 5, 6, 7].flatMap sampleOneGuess ++
    [.spawn (.check (.ofNat 1) "4815" none), .run 0 (samplePinInputs 1000)]

/-- Six checks read the row before any of them has counted. -/
def sampleGuessesAtOnce : List (Move PinRequest PinInputs) :=
  sampleFirstPin ++ List.replicate 6 (.spawn sampleWrongCheck) ++
    List.replicate 12 (.run 0 (samplePinInputs 3))

/-- A check has read the row before five others. -/
def sampleGuessBefore : List (Move PinRequest PinInputs) :=
  sampleFirstPin ++ [.spawn sampleWrongCheck, .run 0 (samplePinInputs 3)] ++
    [4, 5, 6, 7, 8].flatMap fun n ↦
      [.spawn sampleWrongCheck, .run 1 (samplePinInputs n), .run 1 (samplePinInputs n)]

/-- The row after the five. -/
def sampleLocked (n : Nat) : TransactionPin :=
  { samplePin 2 "4815" with failedCount := 5, lockedUntil := some (1000 * n + transactionPinLockMs) }

end Sample

theorem pin_guesses_bounded_sample :
    (Bounded (sampleGuessRun sampleGuessesInTurn).shared ∧
      LocksStand samplePinVerify (samplePinInputs 1001) (sampleGuessRun sampleGuessesInTurn).shared.db
        (.compare (.ofNat 1) (sampleLocked 7) 1000000 "4815" none)) ∧
      pinOf (sampleGuessRun sampleGuessesInTurn).shared.db (.ofNat 1) = some (sampleLocked 7) :=
  have hrun : AllAdmitted (Pool.advance (serveGuess samplePinVerify)) (InTurn samplePinVerify)
      sampleUnguessed sampleGuessesInTurn := by decide +kernel
  have hlocks : ∀ userId, ∀ stored ∈ pinOf .empty userId, LockCounted stored :=
    fun _ stored h ↦ nomatch (show none = some stored from h)
  have hbounded := pin_guesses_bounded hlocks (reaches_of_allAdmitted hrun)
  ⟨⟨hbounded.1, hbounded.2 0 (samplePinInputs 1001) _ (by decide +kernel) (by decide +kernel)⟩,
    by decide +kernel⟩

/-- Six wrong PINs are compared and no lock is set, and a seventh lifts a lock that five others set. -/
theorem pin_guesses_unbounded :
    (¬ ∀ (verify : String → String → Bool) (q : Pool PinGuesses PinRequest),
      Reaches (Pool.advance (serveGuess verify))
        (Pool.Admitted (fun _ t ↦ t.isCall = true) fun _ _ _ ↦ True) ⟨⟨.empty, fun _ ↦ 0⟩, []⟩ q →
      Bounded q.shared) ∧
    ¬ ∀ (verify : String → String → Bool) (q : Pool PinGuesses PinRequest) (i : Nat) (o : PinInputs)
      (t : PinRequest),
      Reaches (Pool.advance (serveGuess verify))
        (Pool.Admitted (fun _ t ↦ t.isCall = true) fun _ _ _ ↦ True) ⟨⟨.empty, fun _ ↦ 0⟩, []⟩ q →
      q.threads[i]? = some t → LocksStand verify o q.shared.db t := by
  constructor
  · intro h
    have hbounded := h samplePinVerify (sampleGuessRun sampleGuessesAtOnce)
      (reaches_of_allAdmitted (by decide +kernel))
    exact absurd (hbounded (.ofNat 1) { samplePin 2 "4815" with failedCount := 1 } (by decide +kernel)
      rfl) (by decide +kernel)
  · intro h
    have hstands := h samplePinVerify (sampleGuessRun sampleGuessBefore) 0 (samplePinInputs 9)
      (.compare (.ofNat 1) (samplePin 2 "4815") 3000 "1623" none)
      (reaches_of_allAdmitted (by decide +kernel)) (by decide +kernel)
    obtain ⟨_, hlater, -⟩ | ⟨pin, hpin, hright⟩ := hstands (.ofNat 1) (sampleLocked 8)
      { samplePin 2 "4815" with failedCount := 1 } (8000 + transactionPinLockMs) (by decide +kernel)
      (by decide +kernel) (by decide +kernel)
    · cases hlater
    · cases hpin
      exact absurd hright (by decide +kernel)


end AjoCloud.Auth
