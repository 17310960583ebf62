import AjoCloud.Lib.Transaction

/-!
# Assertions about statements

Outside of a transaction the statements of a body are carried out one after the other, and what was
written before one of them throws is kept.  `Triple P body Q E` says that from a state in `P` a body
that returns `a` leaves a state in `Q a`, and one that throws leaves a state in `E`.
-/

namespace AjoCloud.Lib

variable {ε σ α β : Type} {P P' : σ → Prop} {Q : α → σ → Prop} {E : σ → Prop}

/-- What holds before a body, after it has returned, and after it has thrown. -/
def Triple (P : σ → Prop) (body : Body ε σ α) (Q : α → σ → Prop) (E : σ → Prop) : Prop :=
  ∀ s, P s → match body.run s with
    | (.ok a, s') => Q a s'
    | (.error _, s') => E s'

/-- Go on only when `p` holds. -/
def Body.check (p : Prop) [Decidable p] (e : ε) : Body ε σ Unit := .read fun _ ↦ require p e

/-- Throw `e`. -/
def Body.fail (e : ε) : Body ε σ α := .read fun _ ↦ .error e

namespace Triple

/-- A body that keeps an assertion however it ends leaves a state where it holds. -/
theorem holds {body : Body ε σ α} (h : Triple P body (fun _ ↦ P') P') {s : σ} (hs : P s) :
    P' (body.run s).2 := by
  have hrun := h s hs
  rcases hbody : body.run s with ⟨e | a, s'⟩
  · rw [hbody] at hrun
    exact hrun
  · rw [hbody] at hrun
    exact hrun

/-- More may be assumed before a body. -/
theorem of_imp {body : Body ε σ α} (h : Triple P' body Q E) (hP : ∀ s, P s → P' s) :
    Triple P body Q E := fun s hs ↦ h s (hP s hs)

theorem pure {a : α} (h : ∀ s, P s → Q a s) : Triple P (Pure.pure a : Body ε σ α) Q E := h

/-- A statement that reads leaves the state as it is. -/
theorem read {f : σ → Except ε α} (hE : ∀ s, P s → E s)
    (hQ : ∀ s a, P s → f s = .ok a → Q a s) : Triple P (.read f) Q E := by
  intro s hs
  rw [Body.run_read]
  cases hf : f s with
  | error e => exact hE s hs
  | ok a => exact hQ s a hs hf

/-- A transaction leaves the state as it is when it throws. -/
theorem call_of {f : σ → Except ε (α × σ)} (hE : ∀ s e, P s → f s = .error e → E s)
    (hQ : ∀ s a s', P s → f s = .ok (a, s') → Q a s') : Triple P (.call f) Q E := by
  intro s hs
  rw [Body.run_call]
  cases hf : f s with
  | error e => exact hE s e hs hf
  | ok p => exact hQ s p.1 p.2 hs hf

theorem call {f : σ → Except ε (α × σ)} (hE : ∀ s, P s → E s)
    (hQ : ∀ s a s', P s → f s = .ok (a, s') → Q a s') : Triple P (.call f) Q E :=
  call_of (fun s _ hs _ ↦ hE s hs) hQ

theorem check {p : Prop} [Decidable p] {e : ε} {Q : Unit → σ → Prop} (hE : ∀ s, P s → E s)
    (hQ : ∀ s, P s → p → Q () s) : Triple P (.check p e) Q E :=
  read hE fun s _ hs hp ↦ hQ s hs (require_eq_ok.mp hp)

theorem fail {e : ε} (hE : ∀ s, P s → E s) : Triple P (.fail e : Body ε σ α) Q E :=
  read hE fun _ _ _ h ↦ nomatch h

/-- The second part of a body starts from what the first part ensures. -/
theorem bind {body : Body ε σ α} {next : α → Body ε σ β} {Q : β → σ → Prop} {R : α → σ → Prop}
    (h : Triple P body R E) (hnext : ∀ a, Triple (R a) (next a) Q E) :
    Triple P (body >>= next) Q E := by
  intro s hs
  have hrun := h s hs
  rw [Body.run_bind]
  rcases hbody : body.run s with ⟨e | a, s'⟩
  · rw [hbody] at hrun
    exact hrun
  · rw [hbody] at hrun
    exact hnext a s' hrun

/-- What a state satisfies whatever it is may be assumed. -/
theorem of_fact {body : Body ε σ α} {φ : Prop} (h : φ → Triple P body Q E) :
    Triple (fun s ↦ P s ∧ φ) body Q E := fun s hs ↦ h hs.2 s hs.1

end Triple

/-! ## Assertions that are kept -/

/-- The assertion is kept, however the body ends. -/
def Body.Keeps (body : Body ε σ α) (P : σ → Prop) : Prop := Triple P body (fun _ ↦ P) P

namespace Body.Keeps

theorem holds {body : Body ε σ α} (h : body.Keeps P) {s : σ} (hs : P s) : P (body.run s).2 :=
  Triple.holds h hs

theorem pure (a : α) : (Pure.pure a : Body ε σ α).Keeps P := Triple.pure fun _ h ↦ h

theorem read (f : σ → Except ε α) : (Body.read f).Keeps P :=
  Triple.read (fun _ h ↦ h) fun _ _ h _ ↦ h

theorem check (p : Prop) [Decidable p] (e : ε) : (Body.check p e : Body ε σ Unit).Keeps P := .read _

theorem fail (e : ε) : (Body.fail e : Body ε σ α).Keeps P := .read _

theorem call {f : σ → Except ε (α × σ)} (h : ∀ s a s', P s → f s = .ok (a, s') → P s') :
    (Body.call f).Keeps P :=
  Triple.call (fun _ h ↦ h) h

theorem bind {body : Body ε σ α} {next : α → Body ε σ β} (h : body.Keeps P)
    (hnext : ∀ a, (next a).Keeps P) : (body >>= next).Keeps P :=
  Triple.bind h hnext

/-- Either way the assertion is kept. -/
theorem ite {p : Prop} [Decidable p] {body body' : Body ε σ α} (h : p → body.Keeps P)
    (h' : ¬ p → body'.Keeps P) : (if p then body else body').Keeps P := by
  split
  · next hp => exact h hp
  · next hp => exact h' hp

end Body.Keeps

end AjoCloud.Lib
