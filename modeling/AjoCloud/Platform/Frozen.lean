import AjoCloud.Ajo.Turns
import AjoCloud.Platform.Debits
import AjoCloud.Platform.Solvency

/-!
# Frozen wallets

Sending, withdrawing and paying a bill ask whether the wallet is active.  A direct contribution and the
confirmation of an intent look at the account only, which stays active when the wallet is frozen.
-/

namespace AjoCloud.Platform

open Lib Ledger Payments

/-- Everything the call posts takes money out of wallets that are active at that moment. -/
def SpendsActive (config : Bills.BillConfig) (db : Db) (call : Call) : Prop :=
  ∀ t, PostedBy config db call t → ∀ w ∈ db.wallets.rows,
    TakesOut (step config db call).ledger t w.id → w.status = .active

/-- The intent waits for its user to confirm it, and would be paid from the wallet. -/
def AwaitsFrom (db : Db) (userId intentId walletId : Uuid) : Prop :=
  ∃ i ∈ db.paymentIntents.rows, i.id = intentId ∧ i.userId = userId ∧
    i.status = .requiresConfirmation ∧ i.walletId = some walletId

/-- A call that does not ask for the status of the wallet it would take money from. -/
def Unasked (db : Db) (wallet : Wallet) : Call → Prop
  | .ajo (.payContribution _ userId _ scheduleId dto) =>
      ContributesFrom db userId scheduleId dto.idempotencyKey wallet
  | .ajo (.settleIntent _ userId intentId _) | .settleFromWallet _ userId intentId _ =>
      AwaitsFrom db userId intentId wallet.id
  | _ => False

/-- The call asks for the status, or the wallet is active. -/
def PaysFromActive (db : Db) (call : Call) : Prop :=
  ∀ w ∈ db.wallets.rows, Unasked db w call → w.status = .active

instance (db : Db) (userId intentId walletId : Uuid) :
    Decidable (AwaitsFrom db userId intentId walletId) :=
  inferInstanceAs (Decidable (∃ i ∈ db.paymentIntents.rows, _))

instance (db : Db) (wallet : Wallet) : (call : Call) → Decidable (Unasked db wallet call)
  | .ajo (.payContribution _ userId _ scheduleId dto) =>
      inferInstanceAs (Decidable (ContributesFrom db userId scheduleId dto.idempotencyKey wallet))
  | .ajo (.settleIntent _ userId intentId _) =>
      inferInstanceAs (Decidable (AwaitsFrom db userId intentId wallet.id))
  | .settleFromWallet _ userId intentId _ =>
      inferInstanceAs (Decidable (AwaitsFrom db userId intentId wallet.id))
  | .ajo (.createIntent ..) | .ajo (.executePayout ..) | .ajo (.createSwap ..)
  | .ajo (.approveSwap ..) | .ajo (.rejectSwap ..) | .ajo (.assignStatus ..) | .send ..
  | .withdraw .. | .createIntent .. | .startExternal .. | .settleDeposit .. | .failIntent ..
  | .reserveBill .. | .applyProviderResult .. | .markUncertain .. | .cancelSubscription ..
  | .award .. | .elsewhere _ => inferInstanceAs (Decidable False)

instance (db : Db) (call : Call) : Decidable (PaysFromActive db call) :=
  inferInstanceAs (Decidable (∀ w ∈ db.wallets.rows, Unasked db w call → w.status = .active))

variable {config : Bills.BillConfig} {db : Db} {call : Call}

/-- The wallet that a call takes money from is active, or the call did not ask. -/
theorem TakesFrom.active_or_unasked {userId : Uuid} {w : Wallet} (hw : w ∈ db.wallets.rows)
    (h : TakesFrom db call userId w.id) : w.status = .active ∨ Unasked db w call := by
  have hsame : ∀ wallet ∈ db.wallets.rows, wallet.id = w.id → wallet = w :=
    fun wallet hmem hid ↦ db.wallets.eq_of_clash hmem hw (.inl hid)
  generalize hid : w.id = walletId at h
  cases h with
  | sent wallet owner active =>
      exact .inl (hsame wallet owner.1 hid.symm ▸ active)
  | withdrew wallet owner active =>
      exact .inl (hsame wallet owner.1 hid.symm ▸ active)
  | reserved wallet owner active =>
      exact .inl (hsame wallet owner.1 hid.symm ▸ active)
  | contributed wallet mem contributes =>
      rw [hsame wallet mem hid.symm] at contributes
      exact .inr contributes
  | confirmed intent asked mem owner unpaid wallet =>
      have hawaits : AwaitsFrom db userId intent.id w.id :=
        ⟨intent, mem, rfl, owner, unpaid, hid ▸ wallet⟩
      cases asked with
      | payment => exact .inr hawaits
      | contribution _ => exact .inr hawaits

theorem spendsActive_of_paysFromActive (h : PaysFromActive db call) : SpendsActive config db call := by
  intro t hposted w hw htakes
  obtain ⟨userId, -, hfrom⟩ := takesFrom_of_takesOut hposted htakes
  rcases hfrom.active_or_unasked hw with hactive | hunasked
  · exact hactive
  · exact h w hw hunasked

/-- In every run, where whoever contributes directly or confirms an intent has an active wallet at that
moment, nothing is ever posted that takes money out of a wallet that is not active. -/
theorem frozen_never_spent {start : Db} {history : List (Db × Call)}
    (hrun : Traced (step config) PaysFromActive start history db) :
    ∀ x ∈ history, SpendsActive config x.1 x.2 := by
  induction hrun with
  | start =>
      intro x hx
      cases hx
  | call _ call hok ih =>
      intro x hx
      rcases List.mem_append.mp hx with hx | hx
      · exact ih x hx
      · rw [List.mem_singleton.mp hx]
        exact spendsActive_of_paysFromActive hok

section Sample

/-- An operator gives the wallet another status; its accounts stay as they are. -/
def setWalletStatus (walletId : Uuid) (status : WalletStatus) : Elsewhere where
  update db := { db with
    wallets := db.wallets.modify (fun w ↦ w.id = walletId) (fun w ↦ { w with status := status })
      fun h ↦ h }
  opens _ := .refl _
  intents _ := rfl

/-- The second member's wallet is frozen. -/
def sampleFreeze : Call := .elsewhere (setWalletStatus (.ofNat 22) .frozen)

/-- A member of the sample group pays for the first round. -/
def samplePays (n member : Nat) : Call :=
  .ajo (.payContribution (sampleCtx n) (.ofNat member) (.ofNat 30)
    (Ajo.sampleContribution 1 member).id ⟨100, "pay"⟩)

/-- The sample group, with the second member's wallet frozen. -/
def sampleFrozen : Db := step sampleConfig Ajo.sampleGroup sampleFreeze

end Sample

/-- The first member pays as before while the second member's wallet is frozen. -/
theorem frozen_never_spent_sample :
    (step sampleConfig sampleFrozen (samplePays 1 1)).contributions.rows.length = 1 ∧
      ∀ x ∈ [(Ajo.sampleGroup, sampleFreeze), (sampleFrozen, samplePays 1 1)],
        SpendsActive sampleConfig x.1 x.2 := by
  refine ⟨by decide +kernel, frozen_never_spent (.call (.call .start sampleFreeze ?_) _ ?_)⟩
  · decide +kernel
  · decide +kernel

/-- The second member's contribution is taken from the frozen wallet. -/
theorem frozen_wallet_spent :
    ¬ ∀ config start history db, Traced (step config) anyCall start history db →
      ∀ x ∈ history, SpendsActive config x.1 x.2 := by
  intro h
  have hspends := h sampleConfig Ajo.sampleGroup _ _
    (.call (.call .start sampleFreeze trivial) (samplePays 1 2) trivial)
    (sampleFrozen, samplePays 1 2) (by simp [sampleFrozen])
  have htaken : ∃ t ∈ (step sampleConfig sampleFrozen (samplePays 1 2)).ledger.transactions.rows,
      t ∉ sampleFrozen.ledger.transactions.rows ∧ ∃ w ∈ sampleFrozen.wallets.rows,
        TakesOut (step sampleConfig sampleFrozen (samplePays 1 2)).ledger t w.id ∧
          w.status = .frozen := by
    decide +kernel
  obtain ⟨t, ht, hnew, w, hw, htakes, hfrozen⟩ := htaken
  have hactive := hspends t ⟨ht, hnew⟩ w hw htakes
  rw [hfrozen] at hactive
  cases hactive

end AjoCloud.Platform
