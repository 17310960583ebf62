import AjoCloud.Common.ServiceError
import AjoCloud.Lib.Table
import AjoCloud.Lib.Journal
import Mathlib.Data.List.Sort

/-!
# The ledger

The double-entry ledger of `LedgerService`: accounts, transactions with their entries, and the
three operations `postWithin`, `accountBalanceWithin` and `reverse`.

A `Ledger` carries what the schema guarantees: no two accounts or transactions agree on a unique
column, and every entry refers to an account that exists.  The entries of a transaction are kept
with it, in the order of their sequence numbers.
-/

namespace AjoCloud.Ledger

open Lib ServiceError

/-! ## Accounts -/

/-- `AccountType`. -/
inductive AccountType where
  | asset
  | liability
  | equity
  | revenue
  | expense
deriving DecidableEq, Repr

/-- `FinancialAccountPurpose`. -/
inductive FinancialAccountPurpose where
  | walletAvailable
  | walletReserved
  | providerPayable
  | platformFeeRevenue
  | referralRewardExpense
  | ajoGroupPool
  | foodProgrammeEscrow
deriving DecidableEq, Repr

/-- The codes that are made for one purpose only: a group's pool, a programme's escrow and the
referral expense account are each looked up by a code of their own form. -/
def codePurpose (code : String) : Option FinancialAccountPurpose :=
  if "AJO_GROUP:".toList.isPrefixOf code.toList then some .ajoGroupPool
  else if "FOOD_PROGRAMME:".toList.isPrefixOf code.toList then some .foodProgrammeEscrow
  else if "PLATFORM:REFERRAL_REWARD_EXPENSE:".toList.isPrefixOf code.toList then
    some .referralRewardExpense
  else none

/-- A financial account.  Accounts are opened by the services under the codes above, always for
the purpose the code is made for. -/
structure FinancialAccount where
  id : Uuid
  code : String
  name : String
  type : AccountType
  purpose : Option FinancialAccountPurpose
  currency : String
  walletId : Option Uuid
  isActive : Bool
  /-- A code made for one purpose is used for it. -/
  purpose_eq : codePurpose code = none ∨ codePurpose code = purpose

instance : Schema FinancialAccount :=
  (Schema.primary (·.id)).unique fun a ↦ some a.code

/-! ## Postings and transactions -/

/-- `EntryDirection`, and `LedgerEntryDirection` of the stored entries. -/
inductive EntryDirection where
  | debit
  | credit
deriving DecidableEq, Repr

/-- The opposite direction. -/
def EntryDirection.opposite : EntryDirection → EntryDirection
  | .debit => .credit
  | .credit => .debit

/-- The sign with which an entry counts towards a balance. -/
def EntryDirection.signed (d : EntryDirection) (amount : Int) : Int :=
  match d with
  | .debit => -amount
  | .credit => amount

@[simp] theorem EntryDirection.signed_debit (a : Int) : EntryDirection.debit.signed a = -a := rfl

@[simp] theorem EntryDirection.signed_credit (a : Int) : EntryDirection.credit.signed a = a := rfl

@[simp] theorem EntryDirection.signed_opposite (d : EntryDirection) (a : Int) :
    d.opposite.signed a = -d.signed a := by
  cases d with
  | debit => exact (neg_neg a).symm
  | credit => rfl

/-- One line of a posting command. -/
structure LedgerPostingEntry where
  accountId : Uuid
  direction : EntryDirection
  amountMinor : Int
deriving DecidableEq

/-- What a caller asks the ledger to post. -/
structure LedgerPostingCommand where
  idempotencyKey : String
  reference : String
  description : String
  currency : String
  initiatedByUserId : Option Uuid
  correlationId : Option String
  entries : List LedgerPostingEntry
deriving DecidableEq

/-- `LedgerTransactionStatus`. -/
inductive LedgerTransactionStatus where
  | pending
  | posted
  | reversed
deriving DecidableEq, Repr

/-- A stored entry. -/
structure LedgerEntry where
  accountId : Uuid
  direction : EntryDirection
  amountMinor : Int
  currency : String
  sequence : Nat
deriving DecidableEq

/-- A stored transaction with its entries. -/
structure LedgerTransaction where
  id : Uuid
  reference : String
  idempotencyKey : String
  description : String
  currency : String
  status : LedgerTransactionStatus
  reversalOfId : Option Uuid
  initiatedByUserId : Option Uuid
  correlationId : Option String
  entries : List LedgerEntry
deriving DecidableEq

instance : Schema LedgerTransaction :=
  (((Schema.primary (·.id)).unique fun t ↦ some t.reference).unique
    fun t ↦ some t.idempotencyKey).unique fun t ↦ t.reversalOfId

/-- The movement an entry makes. -/
def LedgerEntry.leg (e : LedgerEntry) : Leg Uuid := ⟨e.accountId, e.direction.signed e.amountMinor⟩

/-- The movements a transaction makes. -/
def LedgerTransaction.legs (t : LedgerTransaction) : List (Leg Uuid) := t.entries.map (·.leg)

/-- The columns of a transaction and of its entries hold the values. -/
def LedgerTransaction.fits (t : LedgerTransaction) : Prop :=
  fitsVarChar 80 t.reference ∧ fitsVarChar 128 t.idempotencyKey ∧ fitsVarChar 500 t.description ∧
    fitsVarChar 3 t.currency ∧ (∀ c ∈ t.correlationId, fitsVarChar 128 c) ∧
    ∀ e ∈ t.entries, fitsBigInt e.amountMinor = true

instance (t : LedgerTransaction) : Decidable t.fits := by
  unfold LedgerTransaction.fits
  infer_instance

end AjoCloud.Ledger

namespace AjoCloud

open Lib Ledger ServiceError

/-- The ledger's tables. -/
structure Ledger where
  accounts : Table FinancialAccount
  transactions : Table LedgerTransaction
  /-- Every entry refers to an account. -/
  foreignKey : ∀ t ∈ transactions.rows, ∀ e ∈ t.entries, ∃ a ∈ accounts.rows, a.id = e.accountId

namespace Ledger

/-! ## Statements -/

/-- `ledgerTransaction.create`. -/
def createTransaction (ledger : Ledger) (t : LedgerTransaction) : Except ServiceError Ledger :=
  if _ : t.fits then
    if hfk : ∀ e ∈ t.entries, ∃ a ∈ ledger.accounts.rows, a.id = e.accountId then
      match hins : ledger.transactions.insert t with
      | none => .error (.database .uniqueConstraint)
      | some transactions => .ok
        { accounts := ledger.accounts
          transactions := transactions
          foreignKey := by
            intro u hu
            rw [Table.rows_of_insert hins, List.mem_append, List.mem_singleton] at hu
            rcases hu with hu | rfl
            · exact ledger.foreignKey u hu
            · exact hfk }
    else .error (.database .foreignKey)
  else .error (.database .valueTooLong)

/-- `ledgerTransaction.update` of the status. -/
def setStatus (ledger : Ledger) (id : Uuid) (status : LedgerTransactionStatus) : Ledger where
  accounts := ledger.accounts
  transactions := ledger.transactions.modify (fun t ↦ t.id = id)
    (fun t ↦ { t with status := status }) fun h ↦ h
  foreignKey := by
    intro t ht e he
    rcases Table.mem_modify.mp ht with ⟨ht, -⟩ | ⟨t₀, ht₀, -, rfl⟩
    · exact ledger.foreignKey t ht e he
    · exact ledger.foreignKey t₀ ht₀ e he

/-- `financialAccount.create`. -/
def createAccount (ledger : Ledger) (a : FinancialAccount) : Except ServiceError Ledger :=
  if fitsVarChar 80 a.code ∧ fitsVarChar 160 a.name ∧ fitsVarChar 3 a.currency then
    match hins : ledger.accounts.insert a with
    | none => .error (.database .uniqueConstraint)
    | some accounts => .ok
      { accounts := accounts
        transactions := ledger.transactions
        foreignKey := by
          intro t ht e he
          obtain ⟨b, hb, hid⟩ := ledger.foreignKey t ht e he
          rw [Table.rows_of_insert hins]
          exact ⟨b, List.mem_append_left _ hb, hid⟩ }
  else .error (.database .valueTooLong)

/-! ## `assertBalancedPosting` -/

/-- `/^[A-Z]{3}$/`. -/
def isCurrencyCode (currency : String) : Bool :=
  currency.length == 3 && currency.toList.all fun c ↦ 'A' ≤ c && c ≤ 'Z'

/-- The loop of `assertBalancedPosting`, with its two running sums. -/
def sumEntries : List LedgerPostingEntry → Int → Int → Except ServiceError (Int × Int)
  | [], debits, credits => .ok (debits, credits)
  | entry :: rest, debits, credits =>
      if entry.amountMinor ≤ 0 then
        .error (unprocessable "Ledger entry amounts must be positive")
      else match entry.direction with
        | .debit => sumEntries rest (debits + entry.amountMinor) credits
        | .credit => sumEntries rest debits (credits + entry.amountMinor)

/-- Refuse a command that has fewer than two entries, no currency code, an amount that is not
positive, or debits that differ from its credits. -/
def assertBalancedPosting (command : LedgerPostingCommand) : Except ServiceError Unit := do
  require (¬ command.entries.length < 2)
    (unprocessable "A ledger posting requires at least two entries")
  require (isCurrencyCode command.currency)
    (unprocessable "Currency must be a three-letter uppercase code")
  let sums ← sumEntries command.entries 0 0
  require (sums.1 = sums.2) (unprocessable "Ledger transaction is not balanced")

/-! ## `LedgerService` -/

/-- What a posting hands back. -/
structure LedgerReference where
  id : Uuid
  reference : String
deriving DecidableEq

/-- The entries of a command, numbered from one. -/
def numberEntries (currency : String) : Nat → List LedgerPostingEntry → List LedgerEntry
  | _, [] => []
  | index, entry :: rest =>
      ⟨entry.accountId, entry.direction, entry.amountMinor, currency, index + 1⟩ ::
        numberEntries currency (index + 1) rest

/-- The transaction that `postWithin` creates for a command. -/
def postedTransaction (id : Uuid) (command : LedgerPostingCommand) : LedgerTransaction where
  id := id
  reference := command.reference
  idempotencyKey := command.idempotencyKey
  description := command.description
  currency := command.currency
  status := .posted
  reversalOfId := none
  initiatedByUserId := command.initiatedByUserId
  correlationId := command.correlationId.filter (· ≠ "")
  entries := numberEntries command.currency 0 command.entries

/-- `ledgerTransaction.findUnique` by key. -/
def byKey (ledger : Ledger) (idempotencyKey : String) : Option LedgerTransaction :=
  ledger.transactions.find? fun t ↦ t.idempotencyKey = idempotencyKey

/-- `LedgerService.postWithin`; `id` is the identifier the database gives the new row. -/
def postWithin (ledger : Ledger) (id : Uuid) (command : LedgerPostingCommand) :
    Except ServiceError (LedgerReference × Ledger) := do
  assertBalancedPosting command
  match ledger.byKey command.idempotencyKey with
  | some existing => pure (⟨existing.id, existing.reference⟩, ledger)
  | none =>
      let ledger ← ledger.createTransaction (postedTransaction id command)
      pure (⟨id, command.reference⟩, ledger)

/-- `LedgerService.post`. -/
def post (ledger : Ledger) (id : Uuid) (command : LedgerPostingCommand) :
    Except ServiceError (LedgerReference × Ledger) := do
  assertBalancedPosting command
  ledger.postWithin id command

/-- The entries of posted transactions on one account. -/
def postedEntries (ledger : Ledger) (accountId : Uuid) : List LedgerEntry :=
  (ledger.transactions.rows.filter fun t ↦ t.status = .posted).flatMap fun t ↦
    t.entries.filter fun e ↦ e.accountId = accountId

/-- The reducer of `accountBalanceWithin`. -/
def addEntry (balance : Int) (entry : LedgerEntry) : Int :=
  match entry.direction with
  | .credit => balance + entry.amountMinor
  | .debit => balance - entry.amountMinor

/-- `LedgerService.accountBalanceWithin`. -/
def accountBalanceWithin (ledger : Ledger) (accountId : Uuid) : Int :=
  (ledger.postedEntries accountId).foldl addEntry 0

/-- The entries of a reversal: those of the original turned round, numbered from one. -/
def reverseEntries : Nat → List LedgerEntry → List LedgerEntry
  | _, [] => []
  | index, entry :: rest =>
      ⟨entry.accountId, entry.direction.opposite, entry.amountMinor, entry.currency, index + 1⟩ ::
        reverseEntries (index + 1) rest

/-- The transaction that `reverse` creates. -/
def reversalTransaction (id : Uuid) (original : LedgerTransaction)
    (idempotencyKey reference : String) : LedgerTransaction where
  id := id
  reference := reference
  idempotencyKey := idempotencyKey
  description := "Reversal of " ++ original.reference
  currency := original.currency
  status := .posted
  reversalOfId := some original.id
  initiatedByUserId := none
  correlationId := none
  entries := reverseEntries 0 (original.entries.insertionSort fun a b ↦ a.sequence ≤ b.sequence)

/-- `LedgerService.reverse`; `id` is the identifier the database gives the reversal. -/
def reverse (ledger : Ledger) (id originalId : Uuid) (idempotencyKey reference : String) :
    Except ServiceError (LedgerReference × Ledger) := do
  let original ← orThrow
    (ledger.transactions.find? fun t ↦ t.id = originalId)
    (notFound "Posted ledger transaction was not found")
  require (original.status = .posted) (notFound "Posted ledger transaction was not found")
  match ledger.byKey idempotencyKey with
  | some existing => pure (⟨existing.id, existing.reference⟩, ledger)
  | none =>
      let ledger ← ledger.createTransaction
        (reversalTransaction id original idempotencyKey reference)
      pure (⟨id, reference⟩, ledger.setStatus original.id .reversed)

/-! ## Runs of the service -/

/-- A call of the service, with the identifier its new row would get. -/
inductive Call where
  | post (id : Uuid) (command : LedgerPostingCommand)
  | postWithin (id : Uuid) (command : LedgerPostingCommand)
  | reverse (id originalId : Uuid) (idempotencyKey reference : String)

/-- What a call answers. -/
def Call.result (ledger : Ledger) : Call → Except ServiceError (LedgerReference × Ledger)
  | .post id command => ledger.post id command
  | .postWithin id command => ledger.postWithin id command
  | .reverse id originalId idempotencyKey reference =>
      ledger.reverse id originalId idempotencyKey reference

/-- The ledger after a call. -/
def step (ledger : Ledger) (call : Call) : Ledger := committed ledger (call.result ledger)

end Ledger

end AjoCloud
