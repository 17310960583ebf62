import AjoCloud.Lib.Run
import Mathlib.Data.List.Basic

/-!
# Threads over a shared state

A request that takes several database steps is a thread: `exec o s t` is one atomic step of the
thread `t` on the shared state `s`, where `o` is what the step is told from outside (a clock, the
answer of a provider, a fault).  It gives the state afterwards and how the thread goes on, or
nothing when it is finished.  Between two steps of a thread any other thread may run.

`Pool.invariant_of_guarantees` is the rule for such systems: a fact about the state and a fact about
each thread, which no step of another thread destroys.  `Pool.Pending.advance` is the rule for what
some thread still has to do.
-/

universe u v w

namespace AjoCloud.Lib

variable {σ : Type u} {τ : Type v} {ω : Type w}

/-- The shared state and the threads that are under way. -/
structure Pool (σ : Type u) (τ : Type v) where
  shared : σ
  threads : List τ

/-- What a scheduler does next. -/
inductive Move (τ : Type v) (ω : Type w) where
  /-- A new thread arrives. -/
  | spawn (t : τ)
  /-- The thread at the position takes one step. -/
  | run (i : Nat) (o : ω)
  /-- The thread at the position is lost, as when its process stops. -/
  | stop (i : Nat)

/-- Taking out one thread leaves the others. -/
theorem mem_eraseIdx_of_ne {threads : List τ} {i : Nat} {t u : τ} (hu : u ∈ threads)
    (hi : threads[i]? = some t) (hne : u ≠ t) : u ∈ threads.eraseIdx i := by
  obtain ⟨k, hk⟩ := List.mem_iff_getElem?.mp hu
  refine List.mem_eraseIdx_iff_getElem?.mpr ⟨k, ?_, hk⟩
  rintro rfl
  exact hne (Option.some.inj (hk.symm.trans hi))

namespace Pool

/-- The pool after one move. -/
def advance (exec : ω → σ → τ → σ × Option τ) (p : Pool σ τ) : Move τ ω → Pool σ τ
  | .spawn t => ⟨p.shared, p.threads ++ [t]⟩
  | .run i o =>
      match p.threads[i]? with
      | none => p
      | some t =>
          ⟨(exec o p.shared t).1, p.threads.eraseIdx i ++ (exec o p.shared t).2.toList⟩
  | .stop i => ⟨p.shared, p.threads.eraseIdx i⟩

variable {exec : ω → σ → τ → σ × Option τ}

/-- A thread that is under way after a step was there before, or is what the step left of its
own. -/
theorem mem_advance_run {p : Pool σ τ} {i : Nat} {o : ω} {t t' : τ} (hi : p.threads[i]? = some t)
    (h : t' ∈ (p.advance exec (.run i o)).threads) :
    t' ∈ p.threads ∨ (exec o p.shared t).2 = some t' := by
  rw [advance, hi] at h
  rcases List.mem_append.mp h with h | h
  · exact .inl (List.mem_of_mem_eraseIdx h)
  · exact .inr (Option.mem_toList.mp h)

/-- A fact about the state, and a fact about every thread that is under way. -/
structure Holds (S : σ → Prop) (T : σ → τ → Prop) (p : Pool σ τ) : Prop where
  shared : S p.shared
  threads : ∀ t ∈ p.threads, T p.shared t

/-- The move is admitted: the thread may start, or it may take the step it is told to. -/
def Admitted (starts : σ → τ → Prop) (takes : ω → σ → τ → Prop) (p : Pool σ τ) :
    Move τ ω → Prop
  | .spawn t => starts p.shared t
  | .run i o => ∀ t, p.threads[i]? = some t → takes o p.shared t
  | .stop _ => True

instance {starts : σ → τ → Prop} {takes : ω → σ → τ → Prop} [∀ s t, Decidable (starts s t)]
    [∀ o s t, Decidable (takes o s t)] (p : Pool σ τ) (m : Move τ ω) :
    Decidable (Admitted starts takes p m) :=
  match m with
  | .spawn t => inferInstanceAs (Decidable (starts p.shared t))
  | .run i o => inferInstanceAs (Decidable (∀ t ∈ p.threads[i]?, takes o p.shared t))
  | .stop _ => inferInstanceAs (Decidable True)

/-- One admitted move keeps the fact about the state and the facts about the threads, when every step
keeps the first, leaves its thread with its own fact, and keeps the facts of the others. -/
theorem Holds.advance {S : σ → Prop} {T : σ → τ → Prop} {starts : σ → τ → Prop}
    {takes : ω → σ → τ → Prop} {p : Pool σ τ} (hp : Holds S T p) (m : Move τ ω)
    (hm : Admitted starts takes p m) (hstart : ∀ s t, S s → starts s t → T s t)
    (hexec : ∀ o s t, S s → T s t → takes o s t →
      S (exec o s t).1 ∧ (∀ t', (exec o s t).2 = some t' → T (exec o s t).1 t') ∧
        ∀ u, T s u → T (exec o s t).1 u) : Holds S T (p.advance exec m) := by
  rcases m with t | ⟨i, o⟩ | i
  · refine ⟨hp.shared, fun t' ht' ↦ ?_⟩
    rcases List.mem_append.mp ht' with ht' | ht'
    · exact hp.threads t' ht'
    · rw [List.mem_singleton.mp ht']
      exact hstart p.shared t hp.shared hm
  · cases hi : p.threads[i]? with
    | none =>
        rw [Pool.advance, hi]
        exact hp
    | some t =>
        have ht := hp.threads t (List.mem_of_getElem? hi)
        obtain ⟨hshared, hown, hothers⟩ := hexec o p.shared t hp.shared ht (hm t hi)
        have hstate : (p.advance exec (.run i o)).shared = (exec o p.shared t).1 := by
          rw [Pool.advance, hi]
        refine ⟨hstate ▸ hshared, fun t' ht' ↦ ?_⟩
        rw [hstate]
        rcases mem_advance_run hi ht' with hold | hnew
        · exact hothers t' (hp.threads t' hold)
        · exact hown t' hnew
  · exact ⟨hp.shared, fun t' ht' ↦ hp.threads t' (List.mem_of_mem_eraseIdx ht')⟩

/-- **The rule for threads.**  Every step keeps the fact about the state, leaves its thread with its
own fact, and keeps the facts of the others. -/
theorem invariant_of_guarantees {S : σ → Prop} {T : σ → τ → Prop} {starts : σ → τ → Prop}
    {takes : ω → σ → τ → Prop} {p q : Pool σ τ}
    (h : Reaches (advance exec) (Admitted starts takes) p q) (h₀ : Holds S T p)
    (hstart : ∀ s t, S s → starts s t → T s t)
    (hexec : ∀ o s t, S s → T s t → takes o s t →
      S (exec o s t).1 ∧ (∀ t', (exec o s t).2 = some t' → T (exec o s t).1 t') ∧
        ∀ u, T s u → T (exec o s t).1 u) : Holds S T q := by
  refine h.invariant (I := Holds S T) h₀ ?_
  intro p m hp hm
  exact hp.advance m hm hstart hexec

/-- The work is done, or a thread is under way that does it. -/
def Pending (done : σ → Prop) (works : τ → Prop) (p : Pool σ τ) : Prop :=
  done p.shared ∨ ∃ t ∈ p.threads, works t

/-- Work that is under way goes on or gets done, when no step undoes it and no worker is lost. -/
theorem Pending.advance {done : σ → Prop} {works : τ → Prop} {p : Pool σ τ} (m : Move τ ω)
    (h : Pending done works p)
    (hkeep : ∀ i o t, m = .run i o → p.threads[i]? = some t → done p.shared →
      done (exec o p.shared t).1)
    (hwork : ∀ i o t, m = .run i o → p.threads[i]? = some t → works t →
      done (exec o p.shared t).1 ∨ ∃ t', (exec o p.shared t).2 = some t' ∧ works t')
    (hstop : ∀ i t, m = .stop i → p.threads[i]? = some t → ¬ works t) :
    Pending done works (p.advance exec m) := by
  rcases m with t | ⟨i, o⟩ | i
  · obtain hdone | ⟨w, hw, hworks⟩ := h
    · exact .inl hdone
    · exact .inr ⟨w, List.mem_append_left _ hw, hworks⟩
  · cases hi : p.threads[i]? with
    | none =>
        rw [Pool.advance, hi]
        exact h
    | some t =>
        rw [Pool.advance, hi]
        obtain hdone | ⟨w, hw, hworks⟩ := h
        · exact .inl (hkeep i o t rfl hi hdone)
        · by_cases hne : w = t
          · subst hne
            obtain hdone | ⟨w', hnext, hworks'⟩ := hwork i o w rfl hi hworks
            · exact .inl hdone
            · exact .inr ⟨w', List.mem_append_right _ (Option.mem_toList.mpr hnext), hworks'⟩
          · exact .inr ⟨w, List.mem_append_left _ (mem_eraseIdx_of_ne hw hi hne), hworks⟩
  · obtain hdone | ⟨w, hw, hworks⟩ := h
    · exact .inl hdone
    · by_cases hstopped : ∃ t, p.threads[i]? = some t ∧ w = t
      · obtain ⟨t, hi, rfl⟩ := hstopped
        exact absurd hworks (hstop i w rfl hi)
      · refine .inr ⟨w, ?_, hworks⟩
        cases hi : p.threads[i]? with
        | none =>
            rw [Pool.advance, List.eraseIdx_of_length_le (List.getElem?_eq_none_iff.mp hi)]
            exact hw
        | some t => exact mem_eraseIdx_of_ne hw hi fun heq ↦ hstopped ⟨t, hi, heq⟩

/-- An invariant of the state alone. -/
theorem invariant_of_steps {S : σ → Prop} {starts : σ → τ → Prop} {takes : ω → σ → τ → Prop}
    {p q : Pool σ τ} (h : Reaches (advance exec) (Admitted starts takes) p q) (h₀ : S p.shared)
    (hexec : ∀ o s t, S s → takes o s t → S (exec o s t).1) : S q.shared := by
  refine (invariant_of_guarantees (T := fun _ _ ↦ True) h ⟨h₀, fun _ _ ↦ trivial⟩
    (fun _ _ _ _ ↦ trivial) fun o s t hs _ htakes ↦ ?_).shared
  exact ⟨hexec o s t hs htakes, fun _ _ ↦ trivial, fun _ _ ↦ trivial⟩

end Pool

end AjoCloud.Lib
