import AjoCloud.Common.Text
import AjoCloud.Lib.Result

/-!
# Errors, clocks and identifiers

What a request can fail with, and what it takes from outside: the time and the identifiers it
generates.
-/

namespace AjoCloud

/-- The HTTP exceptions the services throw. -/
inductive HttpStatus where
  | badRequest
  | unauthorized
  | forbidden
  | notFound
  | conflict
  | unprocessableEntity
  | tooManyRequests
  | badGateway
  | serviceUnavailable
deriving DecidableEq, Repr

/-- What the database refuses a statement with. -/
inductive DatabaseFault where
  /-- A unique column already holds the value. -/
  | uniqueConstraint
  /-- The row referred to does not exist. -/
  | foreignKey
  /-- A text is longer, or a number larger, than its column can hold. -/
  | valueTooLong
  /-- A `CHECK` of the table does not hold. -/
  | checkConstraint
  /-- `findUniqueOrThrow` or `update` met no row. -/
  | recordNotFound
deriving DecidableEq, Repr

/-- Why a request failed. -/
inductive ServiceError where
  /-- An HTTP exception with its message. -/
  | http (status : HttpStatus) (message : String)
  /-- A plain `Error` with its message, which no caller has given an HTTP shape. -/
  | plain (message : String)
  /-- `PayoutHeldError`: the payout cannot proceed and its schedule is to be held. -/
  | payoutHeld (message : String) (httpError : HttpStatus)
  /-- The database refused a statement. -/
  | database (fault : DatabaseFault)
deriving DecidableEq, Repr

namespace ServiceError

/-- `new NotFoundException(message)`. -/
def notFound (message : String) : ServiceError := .http .notFound message

/-- `new ForbiddenException(message)`. -/
def forbidden (message : String) : ServiceError := .http .forbidden message

/-- `new ConflictException(message)`. -/
def conflict (message : String) : ServiceError := .http .conflict message

/-- `new UnprocessableEntityException(message)`. -/
def unprocessable (message : String) : ServiceError := .http .unprocessableEntity message

/-- `new BadRequestException(message)`. -/
def badRequest (message : String) : ServiceError := .http .badRequest message

/-- `new HttpException(message, HttpStatus.TOO_MANY_REQUESTS)`. -/
def tooManyRequests (message : String) : ServiceError := .http .tooManyRequests message

end ServiceError

/-- Milliseconds since the epoch. -/
abbrev Timestamp := Int

/-- What a request takes from outside the database: the clock, and the identifiers
`randomUUID` and the database's defaults will give out to it. -/
structure Ctx where
  now : Timestamp
  uuid : Nat → Uuid

/-- A `BIGINT` column can hold the value. -/
def fitsBigInt (a : Int) : Bool := -(2 ^ 63) ≤ a && a < 2 ^ 63

/-- An amount that is not negative fits when it is small enough. -/
theorem fitsBigInt_iff {a : Int} (h : 0 ≤ a) : fitsBigInt a = true ↔ a < 2 ^ 63 := by
  rw [fitsBigInt, Bool.and_eq_true, decide_eq_true_eq, decide_eq_true_eq]
  constructor
  · exact fun h ↦ h.2
  · intro hlt
    refine ⟨?_, hlt⟩
    omega

/-- A text has at most as many characters as bytes. -/
theorem length_le_utf8ByteSize (text : String) : text.length ≤ text.utf8ByteSize := by
  rw [← String.ofList_toList (s := text)]
  induction text.toList with
  | nil => simp
  | cons c cs ih =>
      have hsplit : String.ofList (c :: cs) = String.singleton c ++ String.ofList cs := by
        rw [String.singleton_eq_ofList, ← String.ofList_append]
        rfl
      have hpos := c.utf8Size_pos
      rw [hsplit, String.length_append, String.utf8ByteSize_append, String.utf8ByteSize_singleton,
        String.length_singleton]
      omega

/-- A `VARCHAR(n)` column can hold the text. -/
def fitsVarChar (n : Nat) (text : String) : Prop := text.length ≤ n

/-- Counting bytes is quicker than counting characters, and mostly enough. -/
instance (n : Nat) (text : String) : Decidable (fitsVarChar n text) :=
  decidable_of_iff (text.utf8ByteSize ≤ n ∨ text.length ≤ n)
    (or_iff_right_of_imp (le_trans (length_le_utf8ByteSize text)))

/-- What a `CHAR(n)` column holds of a text that fits it: blanks fill it up. -/
def fillChar (n : Nat) (text : String) : String :=
  text ++ String.ofList (List.replicate (n - text.length) ' ')

/-- A column has room for an identifier behind a text that leaves as much. -/
theorem fitsVarChar_append_uuid {n : Nat} {head : String} (h : head.length + 36 ≤ n) (id : Uuid) :
    fitsVarChar n (head ++ id.toString) := by
  rw [fitsVarChar, String.length_append, Uuid.length_toString]
  exact h

/-- A column has room for a short code behind a text that leaves as much. -/
theorem fitsVarChar_append_shortCode {n : Nat} {head : String} (h : head.length + 8 ≤ n)
    (id : Uuid) : fitsVarChar n (head ++ id.shortCode) := by
  rw [fitsVarChar, String.length_append, Uuid.length_shortCode]
  exact h

/-- The transaction's state when it returned, and the old one when it threw. -/
def committed {σ α : Type} (before : σ) (result : Except ServiceError (α × σ)) : σ :=
  match result with
  | .ok (_, after) => after
  | .error _ => before

@[simp] theorem committed_ok {σ α : Type} (before after : σ) (a : α) :
    committed before (.ok (a, after)) = after := rfl

@[simp] theorem committed_error {σ α : Type} (before : σ) (e : ServiceError) :
    committed before (.error e : Except ServiceError (α × σ)) = before := rfl

/-- A transaction leaves the state as it was, or it returned and left its own. -/
theorem committed_cases {σ α : Type} (before : σ) (result : Except ServiceError (α × σ)) :
    committed before result = before ∨
      ∃ a after, result = .ok (a, after) ∧ committed before result = after := by
  rcases result with e | ⟨a, after⟩
  · exact .inl rfl
  · exact .inr ⟨a, after, rfl, rfl⟩

/-- A transaction that answers `a` commits its own state. -/
theorem eq_ok_committed {σ α : Type} (before : σ) {result : Except ServiceError (α × σ)} {a : α}
    (h : result.map (·.1) = .ok a) : result = .ok (a, committed before result) := by
  rcases result with e | ⟨a', after⟩
  · cases h
  · cases h
    rfl

end AjoCloud
