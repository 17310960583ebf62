import AjoCloud.Platform.Effects
import Mathlib

/-!
# Where a posting comes from

Every posting is made under a key that is put together from a fixed opening, an identifier and, at
times, a text that a caller chose.  `Origin` says which operation made the posting and for which
record; `key_inj` is that a key determines its origin, whatever the callers chose.
-/

namespace AjoCloud.Platform

/-! ## Origins -/

/-- What can be posted about a bill. -/
inductive BillEvent where
  | reserve
  | settle
  | release
  | reversal
deriving DecidableEq, Repr

/-- The word for the event in the key of its posting. -/
def BillEvent.word : BillEvent → String
  | .reserve => "reserve:"
  | .settle => "settle:"
  | .release => "release:"
  | .reversal => "reversal:"

/-- The operation that made a posting, and the record it was made for. -/
inductive Origin where
  /-- `send`, for the transfer with the key. -/
  | transfer (idempotencyKey : String)
  /-- `withdraw`, for the withdrawal with the key. -/
  | withdrawal (idempotencyKey : String)
  /-- `payContribution`, for the contribution to the schedule with the caller's key. -/
  | contribution (scheduleId : Uuid) (callerKey : String)
  /-- `executePayout`, for the payout of the schedule row. -/
  | payout (payoutScheduleId : Uuid)
  /-- `confirm` from the wallet, for the intent. -/
  | confirmation (intentId : Uuid) (idempotencyKey : String)
  /-- `settleSuccessful`, for the intent. -/
  | deposit (intentId : Uuid)
  /-- The bill service, for the bill. -/
  | bill (event : BillEvent) (paymentId : Uuid)
  /-- `cancel`, for the subscription that was paid at the time. -/
  | refund (subscriptionId : Uuid) (paidAt : Timestamp)
  /-- `award`, for the referral under a version of the campaign. -/
  | reward (referralId : Uuid) (campaignVersion : Nat)
deriving DecidableEq

namespace Origin

/-- The key of the posting. -/
def key : Origin → String
  | .transfer k => Wallets.transferKey k
  | .withdrawal k => Wallets.withdrawalKey k
  | .contribution scheduleId callerKey => Ajo.contributionIdempotencyKey scheduleId callerKey
  | .payout payoutScheduleId => Ajo.payoutIdempotencyKey payoutScheduleId
  | .confirmation intentId k => Payments.intentKey intentId k
  | .deposit intentId => Payments.depositKey intentId
  | .bill event paymentId => Bills.billKey event.word paymentId
  | .refund subscriptionId paidAt => Food.refundKey subscriptionId (some paidAt)
  | .reward referralId campaignVersion => Referrals.rewardIdempotencyKey referralId campaignVersion

/-! ## Keys open with the operation -/

/-- Which operation it is. -/
inductive Operation where
  | transfer
  | withdrawal
  | contribution
  | payout
  | confirmation
  | deposit
  | bill (event : BillEvent)
  | refund
  | reward
deriving DecidableEq

/-- The operation of an origin. -/
def operation : Origin → Operation
  | .transfer _ => .transfer
  | .withdrawal _ => .withdrawal
  | .contribution _ _ => .contribution
  | .payout _ => .payout
  | .confirmation _ _ => .confirmation
  | .deposit _ => .deposit
  | .bill event _ => .bill event
  | .refund _ _ => .refund
  | .reward _ _ => .reward

/-- What the keys of an operation open with. -/
def Operation.opening : Operation → String
  | .transfer => "transfer:"
  | .withdrawal => "withdrawal-reserve:"
  | .contribution => "ajo-contribution:"
  | .payout => "ajo-payout:"
  | .confirmation => "payment-intent:"
  | .deposit => "payment-settlement:"
  | .bill .reserve => "bill-reserve:"
  | .bill .settle => "bill-settle:"
  | .bill .release => "bill-release:"
  | .bill .reversal => "bill-reversal:"
  | .refund => "food-refund:"
  | .reward => "referral-reward:"

/-- How the key goes on. -/
def rest : Origin → String
  | .transfer k => k
  | .withdrawal k => k
  | .contribution scheduleId callerKey => scheduleId.toString ++ (":" ++ callerKey)
  | .payout payoutScheduleId => payoutScheduleId.toString ++ ""
  | .confirmation intentId k => intentId.toString ++ (":" ++ k)
  | .deposit intentId => intentId.toString ++ ""
  | .bill _ paymentId => paymentId.toString ++ ""
  | .refund subscriptionId paidAt => subscriptionId.toString ++ (":" ++ toString paidAt)
  | .reward referralId campaignVersion => referralId.toString ++ (":v" ++ toString campaignVersion)

theorem key_eq (o : Origin) : o.key = o.operation.opening ++ o.rest := by
  cases o with
  | transfer k => rfl
  | withdrawal k => rfl
  | contribution scheduleId callerKey =>
      exact String.append_assoc
  | payout payoutScheduleId =>
      exact congrArg ("ajo-payout:" ++ ·) String.append_empty.symm
  | confirmation intentId k =>
      exact String.append_assoc
  | deposit intentId =>
      exact congrArg ("payment-settlement:" ++ ·) String.append_empty.symm
  | bill event paymentId =>
      have hword : ∀ p q : String, p ++ (q ++ paymentId.toString) =
          (p ++ q) ++ (paymentId.toString ++ "") := by
        intro p q
        rw [String.append_empty, String.append_assoc]
      cases event with
      | reserve => exact hword "bill-" "reserve:"
      | settle => exact hword "bill-" "settle:"
      | release => exact hword "bill-" "release:"
      | reversal => exact hword "bill-" "reversal:"
  | refund subscriptionId paidAt => rfl
  | reward referralId campaignVersion => rfl

/-- All the operations. -/
def operations : List Operation :=
  [.transfer, .withdrawal, .contribution, .payout, .confirmation, .deposit, .bill .reserve,
    .bill .settle, .bill .release, .bill .reversal, .refund, .reward]

theorem mem_operations (p : Operation) : p ∈ operations := by
  cases p with
  | bill event =>
      cases event with
      | _ => decide
  | _ => decide

/-- Nine characters tell the operations apart. -/
theorem take_opening_inj : ∀ p ∈ operations, ∀ q ∈ operations,
    p.opening.toList.take 9 = q.opening.toList.take 9 → p = q := by decide

theorem length_opening : ∀ p ∈ operations, 9 ≤ p.opening.toList.length := by decide

theorem operation_eq_of_key {o o' : Origin} (h : o.key = o'.key) : o.operation = o'.operation := by
  rw [key_eq, key_eq] at h
  by_contra hne
  refine append_ne_append 9 (length_opening _ (mem_operations _))
    (length_opening _ (mem_operations _)) (fun htake ↦ hne ?_) _ _ h
  exact take_opening_inj _ (mem_operations _) _ (mem_operations _) htake

theorem rest_eq_of_key {o o' : Origin} (h : o.key = o'.key) : o.rest = o'.rest := by
  have hop := operation_eq_of_key h
  rw [key_eq, key_eq, hop] at h
  exact (String.append_right_inj _).mp h

/-- **A key determines its origin**, whatever the callers chose. -/
theorem key_inj {o o' : Origin} (h : o.key = o'.key) : o = o' := by
  have hop := operation_eq_of_key h
  have hrest := rest_eq_of_key h
  cases o with
  | transfer k =>
      cases o' with
      | transfer k' => exact congrArg transfer hrest
      | _ => exact nomatch hop
  | withdrawal k =>
      cases o' with
      | withdrawal k' => exact congrArg withdrawal hrest
      | _ => exact nomatch hop
  | contribution scheduleId callerKey =>
      cases o' with
      | contribution scheduleId' callerKey' =>
          obtain ⟨rfl, hkey⟩ := uuid_append_inj hrest
          rw [(String.append_right_inj _).mp hkey]
      | _ => exact nomatch hop
  | payout payoutScheduleId =>
      cases o' with
      | payout payoutScheduleId' => exact congrArg payout (uuid_append_inj hrest).1
      | _ => exact nomatch hop
  | confirmation intentId k =>
      cases o' with
      | confirmation intentId' k' =>
          obtain ⟨rfl, hkey⟩ := uuid_append_inj hrest
          rw [(String.append_right_inj _).mp hkey]
      | _ => exact nomatch hop
  | deposit intentId =>
      cases o' with
      | deposit intentId' => exact congrArg deposit (uuid_append_inj hrest).1
      | _ => exact nomatch hop
  | bill event paymentId =>
      cases o' with
      | bill event' paymentId' => rw [Operation.bill.inj hop, (uuid_append_inj hrest).1]
      | _ => exact nomatch hop
  | refund subscriptionId paidAt =>
      cases o' with
      | refund subscriptionId' paidAt' =>
          obtain ⟨rfl, htime⟩ := uuid_append_inj hrest
          rw [Int.repr_injective ((String.append_right_inj _).mp htime)]
      | _ => exact nomatch hop
  | reward referralId campaignVersion =>
      cases o' with
      | reward referralId' campaignVersion' =>
          obtain ⟨rfl, hversion⟩ := uuid_append_inj hrest
          rw [Nat.repr_injective ((String.append_right_inj _).mp hversion)]
      | _ => exact nomatch hop

end Origin

end AjoCloud.Platform
