import AjoCloud.Common.Json
import AjoCloud.Common.Text
import AjoCloud.Database.Basic
import AjoCloud.Ledger.Accounts

/-!
# Registration

`AuthService.register` and `referral-code.ts`: the rows that a new account starts with, and the
referral row when it was opened with the code of another.  The row names no campaign: nothing on
this path, and nothing after it, writes the column.
-/

namespace AjoCloud.Auth

open Lib ServiceError Ledger

/-! ## `referral-code.ts` -/

/-- `ALPHABET`. -/
def alphabet : List Char := "2345679ACDEFGHJKMNPQRTUVWXYZ".toList

/-- `BODY_LENGTH`. -/
def bodyLength : Nat := 6

/-- The form in which a code is stored, or nothing when the text cannot be one. -/
def normaliseReferralCode (input : String) : Option String :=
  let trimmed := (toUpperCase (trim input)).toList.filter fun c ↦ !isSpace c
  let body := if "AJO-".toList.isPrefixOf trimmed then trimmed.drop 4 else trimmed
  if body.length = bodyLength ∧ body.all (· ∈ alphabet) then some ("AJO-" ++ String.ofList body)
  else none

/-! ## `AuthService.register` -/

/-- `RegisterDto`, as far as the rows below hold it. -/
structure RegisterDto where
  email : String
  phone : String
  firstName : String
  lastName : String
  referralCode : Option String

/-- The code of an account of a wallet. -/
def walletAccountCode (walletId : Uuid) (part : String) : String :=
  "WALLET:" ++ (walletId.toString ++ part)

theorem codePurpose_walletAccountCode (walletId : Uuid) (part : String) :
    codePurpose (walletAccountCode walletId part) = none := by
  unfold walletAccountCode
  rw [codePurpose, if_neg (not_isPrefixOf_append 1 (by simp) (by simp) (by simp) _),
    if_neg (not_isPrefixOf_append 1 (by simp) (by simp) (by simp) _),
    if_neg (not_isPrefixOf_append 1 (by simp) (by simp) (by simp) _)]

/-- An account of a wallet, as it is created with the wallet. -/
def newWalletAccount (id : Uuid) (wallet : Wallet) (part name : String)
    (purpose : FinancialAccountPurpose) : FinancialAccount where
  id := id
  code := walletAccountCode wallet.id part
  name := name
  type := .liability
  purpose := some purpose
  currency := wallet.currency
  walletId := some wallet.id
  isActive := true
  purpose_eq := .inl (codePurpose_walletAccountCode wallet.id part)

/-- Where a wallet's balance stands. -/
def availableAccount (id : Uuid) (wallet : Wallet) : FinancialAccount :=
  newWalletAccount id wallet ":AVAILABLE" "Wallet available balance" .walletAvailable

/-- Where what a wallet has set aside stands. -/
def reservedAccount (id : Uuid) (wallet : Wallet) : FinancialAccount :=
  newWalletAccount id wallet ":RESERVED" "Wallet reserved balance" .walletReserved

/-- The user row of a registration; `code` is what `generateReferralCode` drew. -/
def newUser (ctx : Ctx) (code : String) (dto : RegisterDto) : User where
  id := ctx.uuid 0
  email := some (toLowerCase (trim dto.email))
  phone := some (trim dto.phone)
  status := .pendingVerification
  referralCode := some code

/-- The referral of a new account: by whoever has the code, unless that is the account itself. -/
def newReferral (id createdId : Uuid) (users : Table User) (referralCode : Option String) :
    Option Referral := do
  let code ← referralCode
  let referrer ← users.find? fun u ↦ u.referralCode = some code
  if referrer.id ≠ createdId then some ⟨id, referrer.id, createdId, none, .pending, none⟩ else none

/-- `referral.create`, when there is a referral to record. -/
def recordReferral (referrals : Table Referral) :
    Option Referral → Except ServiceError (Table Referral)
  | some referral => insertRow referrals referral
  | none => pure referrals

/-- The transaction of `register`. -/
def registerWithin (ctx : Ctx) (code : String) (db : Db) (dto : RegisterDto) :
    Except ServiceError (Uuid × Db) := do
  let referralCode := (truthy dto.referralCode).bind normaliseReferralCode
  let created := newUser ctx code dto
  let users ← insertRow db.users created
  let userProfiles ← insertRow db.kyc.userProfiles
    ⟨ctx.uuid 1, created.id, trim dto.firstName, trim dto.lastName, none, none, none⟩
  let wallet : Wallet := ⟨ctx.uuid 2, created.id, "NGN", .active⟩
  let wallets ← insertRow db.wallets wallet
  let ledger ← db.ledger.createAccount (availableAccount (ctx.uuid 3) wallet)
  let ledger ← ledger.createAccount (reservedAccount (ctx.uuid 4) wallet)
  let referrals ← recordReferral db.referrals.referrals
    (newReferral (ctx.uuid 5) created.id users referralCode)
  pure (created.id,
    { db with
      users := users
      kyc := { db.kyc with userProfiles := userProfiles }
      wallets := wallets
      ledger := ledger
      referrals := { db.referrals with referrals := referrals } })

/-- `register`: the identifier of the new account, before anything is sent to its address. -/
def register (ctx : Ctx) (code : String) (db : Db) (dto : RegisterDto) :
    Except ServiceError (Uuid × Db) :=
  (registerWithin ctx code db dto).mapError fun e ↦
    if e = .database .uniqueConstraint then conflict "An account with these details already exists"
    else e

/-! ## What a registration leaves behind -/

variable {ctx : Ctx} {code : String} {db db' : Db} {dto : RegisterDto} {createdId : Uuid}

theorem newReferral_eq_some {id : Uuid} {users : Table User} {referralCode : Option String}
    {referral : Referral} (h : newReferral id createdId users referralCode = some referral) :
    ∃ referrerUserId, referrerUserId ≠ createdId ∧
      referral = ⟨id, referrerUserId, createdId, none, .pending, none⟩ := by
  simp only [newReferral, Option.bind_eq_bind, Option.bind_eq_some_iff] at h
  obtain ⟨code, -, referrer, -, h⟩ := h
  split at h
  · next hne =>
      cases h
      exact ⟨referrer.id, hne, rfl⟩
  · cases h

/-- What a registration does to the referrals: it adds at most one row, which is pending and names
no campaign, and leaves the campaigns and what was awarded alone. -/
structure Enlisted (createdId : Uuid) (tables tables' : ReferralTables) : Prop where
  campaigns : tables'.campaigns = tables.campaigns
  qualifications : tables'.qualifications = tables.qualifications
  rewards : tables'.rewards = tables.rewards
  referrals : tables'.referrals = tables.referrals ∨
    ∃ referral : Referral, referral.referredUserId = createdId ∧
      referral.referrerUserId ≠ createdId ∧ referral.campaignId = none ∧
      referral.status = .pending ∧ insertRow tables.referrals referral = .ok tables'.referrals

theorem register_eq_ok (h : register ctx code db dto = .ok (createdId, db')) :
    Enlisted createdId db.referrals db'.referrals := by
  rw [register, mapError_eq_ok] at h
  simp only [registerWithin, bind_eq_ok, pure_eq_ok, Prod.mk.injEq] at h
  obtain ⟨users, -, userProfiles, -, wallets, -, ledger, -, ledger', -, referrals, href, rfl, rfl⟩ := h
  refine ⟨rfl, rfl, rfl, ?_⟩
  cases hnew : newReferral (ctx.uuid 5) (newUser ctx code dto).id users
      ((truthy dto.referralCode).bind normaliseReferralCode) with
  | none =>
      rw [hnew, recordReferral, pure_eq_ok] at href
      exact .inl href.symm
  | some referral =>
      rw [hnew, recordReferral] at href
      obtain ⟨referrerUserId, hne, rfl⟩ := newReferral_eq_some hnew
      exact .inr ⟨_, rfl, hne, rfl, rfl, href⟩

end AjoCloud.Auth
