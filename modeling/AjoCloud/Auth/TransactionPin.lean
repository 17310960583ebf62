import AjoCloud.Database.Basic

/-!
# The transaction PIN

`transaction-pin-policy.ts` and `TransactionPinService`.  A PIN is checked in two steps, a read and a
write, with Argon2id between them, so that two checks of one user's PIN may overlap.  Argon2id itself is
a parameter: `verify pinHash pin`.
-/

namespace AjoCloud.Auth

open Lib ServiceError

/-! ## `transaction-pin-policy.ts` -/

/-- `TRANSACTION_PIN_LENGTH`. -/
def transactionPinLength : Nat := 4

/-- `TRANSACTION_PIN_MAX_ATTEMPTS`. -/
def transactionPinMaxAttempts : Nat := 5

/-- `TRANSACTION_PIN_LOCK_MS`. -/
def transactionPinLockMs : Int := 15 * 60 * 1000

/-- Each number is its predecessor and `d`. -/
def goesBy (d : Int) : List Int → Bool
  | x :: y :: rest => y == x + d && goesBy d (y :: rest)
  | _ => true

/-- `isWeakTransactionPin`: all one digit, ascending or descending. -/
def isWeakTransactionPin (pin : String) : Bool :=
  let digits := pin.toList.map fun c ↦ (c.toNat : Int)
  !digits.isEmpty && pin.toList.all Char.isDigit &&
    (goesBy 0 digits || goesBy 1 digits || goesBy (-1) digits)

/-- `isValidTransactionPinShape`. -/
def isValidTransactionPinShape (pin : String) : Bool :=
  pin.toList.length == transactionPinLength && pin.toList.all Char.isDigit

/-- `isPinLocked`. -/
def isPinLocked (lockedUntil : Option Timestamp) (now : Timestamp) : Bool :=
  lockedUntil.any fun t ↦ now < t

/-- `registerFailedAttempt`: the new `failedCount` and `lockedUntil`. -/
def registerFailedAttempt (failedCount : Nat) (now : Timestamp) : Nat × Option Timestamp :=
  (failedCount + 1,
    if transactionPinMaxAttempts ≤ failedCount + 1 then some (now + transactionPinLockMs) else none)

/-! ## `TransactionPinService` -/

/-- The row of a user's PIN. -/
def pinOf (db : Db) (userId : Uuid) : Option TransactionPin :=
  db.kyc.transactionPins.find? fun p ↦ p.userId = userId

/-- `assertUsablePin`. -/
def assertUsablePin (pin : String) : Except ServiceError Unit := do
  require (isValidTransactionPinShape pin) (badRequest "Your PIN must be 4 digits")
  require (¬ isWeakTransactionPin pin) (badRequest "Choose a less predictable PIN")

/-- `assertCurrentPinMatches`, up to Argon2id. -/
def readPin (now : Timestamp) (db : Db) (userId : Uuid) : Except ServiceError TransactionPin := do
  let existing ← orThrow (pinOf db userId) (badRequest "No transaction PIN has been set")
  require (¬ isPinLocked existing.lockedUntil now)
    (tooManyRequests "Too many attempts. Try again later.")
  pure existing

/-- What a right PIN writes.  The counter and the lock are written when there was something to clear. -/
def acceptPin (now : Timestamp) (existing p : TransactionPin) : TransactionPin :=
  if existing.failedCount ≠ 0 ∨ existing.lockedUntil ≠ none then
    { p with failedCount := 0, lockedUntil := none, lastUsedAt := some now }
  else { p with lastUsedAt := some now }

/-- What a wrong PIN writes. -/
def rejectPin (now : Timestamp) (existing p : TransactionPin) : TransactionPin :=
  { p with
    failedCount := (registerFailedAttempt existing.failedCount now).1
    lockedUntil := (registerFailedAttempt existing.failedCount now).2 }

/-- Why a wrong PIN is refused. -/
def wrongPin (now : Timestamp) (existing : TransactionPin) : ServiceError :=
  if (registerFailedAttempt existing.failedCount now).2.isSome then
    tooManyRequests "Too many attempts. Try again later."
  else badRequest "That PIN is incorrect"

/-- `transactionPin.update` of the user's row. -/
def updatePin (db : Db) (userId : Uuid) (f : TransactionPin → TransactionPin) :
    Except ServiceError Db := do
  let transactionPins ← updateRow db.kyc.transactionPins (fun p ↦ p.userId = userId) f
  pure { db with kyc := { db.kyc with transactionPins := transactionPins } }

/-- `assertCurrentPinMatches`, from Argon2id on, for the row that was read at `now`: the database it
leaves, and whether it threw.  A wrong PIN is counted before it throws. -/
def concludePin (verify : String → String → Bool) (now : Timestamp) (db : Db)
    (userId : Uuid) (existing : TransactionPin) (pin : String) : Db × Except ServiceError Unit :=
  if verify existing.pinHash pin then
    match updatePin db userId (acceptPin now existing) with
    | .ok db' => (db', .ok ())
    | .error e => (db, .error e)
  else
    match updatePin db userId (rejectPin now existing) with
    | .ok db' => (db', .error (wrongPin now existing))
    | .error e => (db, .error e)

/-- The end of `setPin`: the `upsert` of the digest. -/
def storePin (ctx : Ctx) (db : Db) (userId : Uuid) (pinHash : String) : Except ServiceError Db := do
  require (fitsVarChar 255 pinHash) (.database .valueTooLong)
  match pinOf db userId with
  | some _ => updatePin db userId fun p ↦
      { p with pinHash := pinHash, changedAt := ctx.now, failedCount := 0, lockedUntil := none }
  | none => do
      let transactionPins ← insertRow db.kyc.transactionPins
        ⟨ctx.uuid 0, userId, pinHash, 0, none, none, ctx.now⟩
      pure { db with kyc := { db.kyc with transactionPins := transactionPins } }

/-! ## What the service did -/

variable {verify : String → String → Bool} {now : Timestamp} {db db' : Db}

/-- The service writes on the PINs. -/
structure PinsOnly (db db' : Db) : Prop where
  after : db' = { db with kyc := { db.kyc with transactionPins := db'.kyc.transactionPins } }

theorem PinsOnly.refl (db : Db) : PinsOnly db db := ⟨rfl⟩

theorem PinsOnly.ledger (h : PinsOnly db db') : db'.ledger = db.ledger := by
  rw [h.after]

theorem updatePin_pinsOnly {userId : Uuid} {f : TransactionPin → TransactionPin}
    (h : updatePin db userId f = .ok db') : PinsOnly db db' := by
  simp only [updatePin, bind_eq_ok, pure_eq_ok] at h
  obtain ⟨pins, -, rfl⟩ := h
  exact ⟨rfl⟩

theorem storePin_pinsOnly {ctx : Ctx} {userId : Uuid} {pinHash : String}
    (h : storePin ctx db userId pinHash = .ok db') : PinsOnly db db' := by
  simp only [storePin, bind_eq_ok, require_eq_ok, exists_const] at h
  obtain ⟨-, h⟩ := h
  split at h
  · exact updatePin_pinsOnly h
  · simp only [bind_eq_ok, pure_eq_ok] at h
    obtain ⟨pins, -, rfl⟩ := h
    exact ⟨rfl⟩

theorem concludePin_pinsOnly (verify : String → String → Bool) (now : Timestamp) (db : Db)
    (userId : Uuid) (existing : TransactionPin) (pin : String) :
    PinsOnly db (concludePin verify now db userId existing pin).1 := by
  unfold concludePin
  split
  · split
    · next hok => exact updatePin_pinsOnly hok
    · exact .refl db
  · split
    · next hok => exact updatePin_pinsOnly hok
    · exact .refl db

/-- Only the right PIN gets through. -/
theorem verify_of_concludePin {userId : Uuid} {existing : TransactionPin} {pin : String}
    (h : (concludePin verify now db userId existing pin).2 = .ok ()) : verify existing.pinHash pin = true := by
  unfold concludePin at h
  split at h
  · next hverify => exact hverify
  · split at h
    · cases h
    · cases h

/-- The PIN that is checked is the user's own, and it is not locked. -/
theorem readPin_eq_ok {userId : Uuid} {existing : TransactionPin}
    (h : readPin now db userId = .ok existing) :
    existing ∈ db.kyc.transactionPins.rows ∧ existing.userId = userId ∧
      isPinLocked existing.lockedUntil now = false := by
  simp only [readPin, bind_eq_ok, require_eq_ok, orThrow_eq_ok, pure_eq_ok, exists_const] at h
  obtain ⟨_, hfind, hopen, rfl⟩ := h
  refine ⟨Table.mem_of_find? hfind, by simpa using Table.prop_of_find? hfind, ?_⟩
  simpa using hopen

end AjoCloud.Auth
