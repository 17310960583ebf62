import AjoCloud.Platform.Basic

/-!
# No wallet is overdrawn

From accounts that hold nothing, every run of the platform leaves every wallet at zero or more.
-/

namespace AjoCloud.Platform

open Lib Ledger Payments

/-- Accounts that hold nothing are not overdrawn. -/
theorem solvent_of_zero {db : Db} (h : ∀ a ∈ db.ledger.accounts.rows, db.balance a.id = 0) :
    Solvent db.ledger := by
  intro a ha _
  exact le_of_eq (h a ha).symm

/-- **No overdraft.**  In every state that a run from empty accounts reaches, every wallet's
available balance is at least zero. -/
theorem no_overdraft {config : Bills.BillConfig} {db₀ db : Db}
    (h₀ : ∀ a ∈ db₀.ledger.accounts.rows, db₀.balance a.id = 0)
    (h : Reaches (step config) anyCall db₀ db) :
    ∀ a ∈ db.ledger.accounts.rows, a.purpose = some .walletAvailable → 0 ≤ db.balance a.id :=
  solvent_of_reaches h (solvent_of_zero h₀)

/-! ## A small platform -/

section Sample

/-- The clock and the identifiers of the `n`-th call. -/
def sampleCtx (n : Nat) : Ctx := ⟨1000, fun k ↦ .ofNat (1000 * n + k)⟩

/-- The configuration of the bills. -/
def sampleConfig : Bills.BillConfig := ⟨"sandbox", id⟩

/-- An account of the sample. -/
def sampleAccount (id : Nat) (code : String) (type : AccountType)
    (purpose : FinancialAccountPurpose) (wallet : Option Nat)
    (hcode : codePurpose code = none) : FinancialAccount :=
  plainAccount id code type purpose wallet hcode

/-- The accounts of two wallets and of the platform. -/
def sampleAccounts : List FinancialAccount :=
  [sampleAccount 10 "PROVIDER:NGN" .asset .providerPayable none codePurpose_provider,
    sampleAccount 11 "WALLET:1" .liability .walletAvailable (some 21) codePurpose_wallet1,
    sampleAccount 12 "WALLET:2" .liability .walletAvailable (some 22) codePurpose_wallet2,
    sampleAccount 13 "FEES:NGN" .revenue .platformFeeRevenue none codePurpose_fees,
    sampleAccount 14 "RESERVED:1" .liability .walletReserved (some 21) (by decide)]

/-- The wallets of the sample. -/
def sampleWallets : List Wallet :=
  [⟨.ofNat 21, .ofNat 1, "NGN", .active⟩, ⟨.ofNat 22, .ofNat 2, "NGN", .active⟩]

/-- Two members with a wallet each; nothing has happened yet. -/
def samplePlatform : Db :=
  { Db.empty with
    ledger := ⟨⟨sampleAccounts, by decide⟩, .empty, by simp⟩
    users := ⟨[⟨.ofNat 1, some "a@example.com", none, .active, none⟩,
      ⟨.ofNat 2, some "b@example.com", none, .active, none⟩], by decide⟩
    wallets := ⟨sampleWallets, by decide⟩
    linkedBankAccounts := ⟨[⟨.ofNat 31, .ofNat 1, "Bank", "******6789", "digest"⟩], by simp⟩ }

/-- A provider that names every charge alike. -/
def sampleProvider : PaymentProvider := ⟨fun _ ↦ .ok ⟨"REF-1"⟩, fun _ ↦ .ok ⟨"REF-1"⟩⟩

/-- The first member tops up, sends to the second and withdraws the rest. -/
def sampleCalls : List Call :=
  [.createIntent (sampleCtx 1) .walletTopup (.ofNat 1) ⟨none, some 100000⟩ "top-up",
    .startExternal (sampleCtx 2) sampleProvider (.ofNat 1) (.ofNat 1000) .transfer,
    .settleDeposit (sampleCtx 3) (.ofNat 1000),
    .send (sampleCtx 4) (.ofNat 1) ⟨.ofNat 21, "b@example.com", 40000, none⟩ "send",
    .withdraw (sampleCtx 5) (.ofNat 1) ⟨.ofNat 21, .ofNat 31, 60000⟩ "withdraw",
    .withdraw (sampleCtx 6) (.ofNat 1) ⟨.ofNat 21, .ofNat 31, 1⟩ "too much"]

end Sample

/-- The money of the sample: what is left is not overdrawn. -/
theorem no_overdraft_sample :
    (∀ a ∈ (sampleCalls.foldl (step sampleConfig) samplePlatform).ledger.accounts.rows,
      a.purpose = some .walletAvailable →
        0 ≤ (sampleCalls.foldl (step sampleConfig) samplePlatform).balance a.id) ∧
    (sampleCalls.foldl (step sampleConfig) samplePlatform).ledger.accounts.rows.map (fun a ↦
      (sampleCalls.foldl (step sampleConfig) samplePlatform).balance a.id) =
        [-100000, 0, 40000, 0, 60000] :=
  ⟨no_overdraft (by decide) (reaches_foldl _ _ _), by decide +kernel⟩

end AjoCloud.Platform
