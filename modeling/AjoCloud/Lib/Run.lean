import Mathlib.Logic.Relation

/-!
# Runs

A system answers one call at a time: `step s k` is the state in which call `k` leaves it, whether
the call succeeded or not.  `Reaches step ok s t` says that some sequence of calls, each of which
meets the condition `ok` in the state where it is made, leads from `s` to `t`.
-/

universe u v

namespace AjoCloud.Lib

variable {σ : Type u} {κ : Type v} {step : σ → κ → σ} {ok ok' : σ → κ → Prop} {s t : σ}

/-- The call `k` is admitted in `s` and leads to `t`. -/
def Leads (step : σ → κ → σ) (ok : σ → κ → Prop) (s t : σ) : Prop := ∃ k, ok s k ∧ step s k = t

/-- Some sequence of admitted calls leads from `s` to `t`. -/
def Reaches (step : σ → κ → σ) (ok : σ → κ → Prop) : σ → σ → Prop :=
  Relation.ReflTransGen (Leads step ok)

/-- Every call is admitted. -/
def anyCall : σ → κ → Prop := fun _ _ ↦ True

/-- The call meets the condition when it takes effect; one that is refused, or finds nothing to do, need
not. -/
def Effective (step : σ → κ → σ) (ok : σ → κ → Prop) (s : σ) (k : κ) : Prop := step s k = s ∨ ok s k

namespace Reaches

theorem refl (s : σ) : Reaches step ok s s := Relation.ReflTransGen.refl

/-- One more call. -/
theorem call (h : Reaches step ok s t) (k : κ) (hk : ok t k) : Reaches step ok s (step t k) :=
  Relation.ReflTransGen.tail h ⟨k, hk, rfl⟩

theorem trans {r : σ} (h : Reaches step ok s t) (h' : Reaches step ok t r) :
    Reaches step ok s r := Relation.ReflTransGen.trans h h'

/-- What holds at the start and survives every admitted call holds wherever a run gets. -/
theorem invariant {I : σ → Prop} (h : Reaches step ok s t) (h₀ : I s)
    (hstep : ∀ s k, I s → ok s k → I (step s k)) : I t := by
  induction h with
  | refl => exact h₀
  | tail _ hk ih =>
      obtain ⟨k, hok, rfl⟩ := hk
      exact hstep _ k ih hok

/-- A run is a run under any weaker condition. -/
theorem mono (h : Reaches step ok s t) (himp : ∀ s k, ok s k → ok' s k) : Reaches step ok' s t :=
  Relation.ReflTransGen.mono (fun _ _ ⟨k, hk, e⟩ ↦ ⟨k, himp _ k hk, e⟩) _ _ h

theorem effective (h : Reaches step ok s t) : Reaches step (Effective step ok) s t :=
  h.mono fun _ _ hk ↦ .inr hk

/-- Calls without effect can be left out of a run. -/
theorem of_effective (h : Reaches step (Effective step ok) s t) : Reaches step ok s t := by
  refine h.invariant (I := Reaches step ok s) (.refl s) fun u k hu hk ↦ ?_
  rcases hk with hsame | hok
  · exact hsame.symm ▸ hu
  · exact hu.call k hok

end Reaches

/-- Making the calls of a list, one after the other, is a run. -/
theorem reaches_foldl_of (s : σ) {calls : List κ} (h : ∀ k ∈ calls, ∀ s, ok s k) :
    Reaches step ok s (calls.foldl step s) := by
  induction calls generalizing s with
  | nil => exact .refl s
  | cons k calls ih =>
      rw [List.forall_mem_cons] at h
      exact ((Reaches.refl s).call k (h.1 s)).trans (ih (step s k) h.2)

/-- Each call of the list is admitted in the state where it is made. -/
def AllAdmitted (step : σ → κ → σ) (ok : σ → κ → Prop) : σ → List κ → Prop
  | _, [] => True
  | s, k :: calls => ok s k ∧ AllAdmitted step ok (step s k) calls

instance decidableAllAdmitted [∀ s k, Decidable (ok s k)] :
    (s : σ) → (calls : List κ) → Decidable (AllAdmitted step ok s calls)
  | _, [] => isTrue trivial
  | s, k :: calls =>
      have := decidableAllAdmitted (step s k) calls
      inferInstanceAs (Decidable (ok s k ∧ AllAdmitted step ok (step s k) calls))

theorem reaches_of_allAdmitted {s : σ} {calls : List κ} (h : AllAdmitted step ok s calls) :
    Reaches step ok s (calls.foldl step s) := by
  induction calls generalizing s with
  | nil => exact .refl s
  | cons k calls ih => exact ((Reaches.refl s).call k h.1).trans (ih h.2)

/-- A run with its history: every call that was made, and the state in which it was made. -/
inductive Traced (step : σ → κ → σ) (ok : σ → κ → Prop) (s : σ) : List (σ × κ) → σ → Prop
  | start : Traced step ok s [] s
  | call {history : List (σ × κ)} {t : σ} (run : Traced step ok s history t) (k : κ) (hk : ok t k) :
      Traced step ok s (history ++ [(t, k)]) (step t k)

/-- What holds at the start and survives every admitted call holds wherever a run gets; it may speak
of the calls that were made on the way. -/
theorem Traced.invariant {I : List (σ × κ) → σ → Prop} {history : List (σ × κ)}
    (h : Traced step ok s history t) (h₀ : I [] s)
    (hstep : ∀ history t k, I history t → ok t k → I (history ++ [(t, k)]) (step t k)) :
    I history t := by
  induction h with
  | start => exact h₀
  | call _ k hk ih => exact hstep _ _ k ih hk

/-- Forgetting the history. -/
theorem Traced.reaches {history : List (σ × κ)} (h : Traced step ok s history t) :
    Reaches step ok s t := by
  induction h with
  | start => exact .refl s
  | call _ k hk ih => exact ih.call k hk

/-- Every run has a history. -/
theorem Reaches.exists_traced (h : Reaches step ok s t) : ∃ history, Traced step ok s history t := by
  induction h with
  | refl => exact ⟨[], .start⟩
  | tail _ hk ih =>
      obtain ⟨k, hok, rfl⟩ := hk
      obtain ⟨history, hrun⟩ := ih
      exact ⟨_, hrun.call k hok⟩

theorem reaches_foldl (step : σ → κ → σ) (s : σ) (calls : List κ) :
    Reaches step anyCall s (calls.foldl step s) := reaches_foldl_of s fun _ _ _ ↦ trivial

end AjoCloud.Lib
