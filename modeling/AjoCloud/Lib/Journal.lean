import AjoCloud.Lib.Table
import Mathlib.Data.List.Sort

/-!
# Double-entry journals

A journal is a list of legs, each of which moves a signed amount on one account: positive when
the account is credited.  `net` is what the legs do to one account, `total` what they do to all.

`sum_net` is the trial balance: over any list of accounts that covers the legs, the net movements
add up to the total, so that a journal made of balanced postings nets to zero.
-/

universe u

namespace AjoCloud.Lib

/-- A signed movement on one account. -/
structure Leg (α : Type u) where
  /-- The account moved. -/
  account : α
  /-- By how much; a credit is positive. -/
  amount : Int

namespace Journal

variable {α : Type u}

/-- What the legs do to the account `a`. -/
def net [DecidableEq α] (legs : List (Leg α)) (a : α) : Int :=
  sumWhere legs (fun l ↦ l.account = a) (·.amount)

/-- What the legs do altogether. -/
def total (legs : List (Leg α)) : Int := (legs.map (·.amount)).sum

/-- The legs that undo `legs`. -/
def undo (legs : List (Leg α)) : List (Leg α) := legs.map fun l ↦ ⟨l.account, -l.amount⟩

@[simp] theorem total_nil : total ([] : List (Leg α)) = 0 := rfl

theorem total_cons (l : Leg α) (legs : List (Leg α)) : total (l :: legs) = l.amount + total legs := by
  simp [total]

@[simp] theorem total_append (legs legs' : List (Leg α)) :
    total (legs ++ legs') = total legs + total legs' := by
  simp [total]

@[simp] theorem total_undo (legs : List (Leg α)) : total (undo legs) = -total legs := by
  induction legs with
  | nil => rfl
  | cons l legs ih =>
      rw [undo, List.map_cons, total_cons, total_cons, ← undo, ih]
      ring

/-- Balanced postings laid end to end are balanced. -/
theorem total_flatMap_eq_zero {ι : Type u} {items : List ι} {legs : ι → List (Leg α)}
    (h : ∀ i ∈ items, total (legs i) = 0) : total (items.flatMap legs) = 0 := by
  induction items with
  | nil => rfl
  | cons i items ih =>
      rw [List.flatMap_cons, total_append, h i (by simp), zero_add]
      exact ih fun x hx ↦ h x (List.mem_cons_of_mem _ hx)

/-! ## The movement of one account -/

variable [DecidableEq α]

@[simp] theorem net_nil (a : α) : net [] a = 0 := rfl

theorem net_cons (l : Leg α) (legs : List (Leg α)) (a : α) :
    net (l :: legs) a = (if l.account = a then l.amount else 0) + net legs a := by
  simp [net, sumWhere_cons]

@[simp] theorem net_append (legs legs' : List (Leg α)) (a : α) :
    net (legs ++ legs') a = net legs a + net legs' a := sumWhere_append _ _

/-- Only which legs there are matters, not their order. -/
theorem net_perm {legs legs' : List (Leg α)} (h : legs.Perm legs') (a : α) :
    net legs a = net legs' a := by
  induction h with
  | nil => rfl
  | cons l _ ih => rw [net_cons, net_cons, ih]
  | swap l l' legs =>
      simp only [net_cons]
      ring
  | trans _ _ ih₁ ih₂ => rw [ih₁, ih₂]

@[simp] theorem net_undo (legs : List (Leg α)) (a : α) : net (undo legs) a = -net legs a := by
  induction legs with
  | nil => rfl
  | cons l legs ih =>
      rw [undo, List.map_cons, net_cons, net_cons, ← undo, ih]
      split
      · ring
      · ring

/-- An account that no leg moves has no net movement. -/
theorem net_eq_zero {legs : List (Leg α)} {a : α} (h : ∀ l ∈ legs, l.account ≠ a) :
    net legs a = 0 := by
  induction legs with
  | nil => rfl
  | cons l legs ih =>
      rw [net_cons, if_neg (h l (by simp)), ih fun x hx ↦ h x (List.mem_cons_of_mem _ hx), zero_add]

/-- **Trial balance.**  Over any accounts that cover the legs, the net movements add up to what
the legs do altogether. -/
theorem sum_net {accounts : List α} (hnd : accounts.Nodup) {legs : List (Leg α)}
    (hcover : ∀ l ∈ legs, l.account ∈ accounts) :
    (accounts.map (net legs)).sum = total legs := by
  induction legs with
  | nil => simp [funext net_nil]
  | cons l legs ih =>
      have hone : (accounts.map fun a ↦ if l.account = a then l.amount else 0).sum = l.amount := by
        have hcount := List.count_eq_one_of_mem hnd (hcover l (by simp))
        have hite := List.sum_map_ite_eq accounts (fun _ ↦ l.amount) (fun _ ↦ 0) l.account
        simpa [hcount, eq_comm] using hite
      rw [total_cons, ← ih fun x hx ↦ hcover x (List.mem_cons_of_mem _ hx)]
      simp only [funext fun a ↦ net_cons l legs a, List.sum_map_add, hone]

end Journal

end AjoCloud.Lib
