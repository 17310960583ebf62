import Mathlib.Tactic.Common

/-!
# Guarded computations

A request handler is a straight line of lookups and guards, each of which either goes on or
throws.  It is written here as a `do` block in `Except ε`, with `require` for a guard and
`orThrow` for a lookup that must succeed.

The lemmas invert such a block: from the fact that it returned, every guard it passed and every
row it found.  A proof about a handler peels the block apart with them once, and never again.
-/

universe u v

namespace AjoCloud.Lib

variable {ε : Type u} {α β : Type v}

/-- Go on when `p` holds, throw `e` otherwise. -/
def require (p : Prop) [Decidable p] (e : ε) : Except ε PUnit.{v + 1} :=
  if p then .ok ⟨⟩ else .error e

/-- The value that was looked up, or the error `e` when there is none. -/
def orThrow (o : Option α) (e : ε) : Except ε α :=
  match o with
  | some a => .ok a
  | none => .error e

/-- A sequence returned because its first part did, and then the rest did. -/
theorem bind_eq_ok {x : Except ε α} {f : α → Except ε β} {b : β} :
    (x >>= f) = .ok b ↔ ∃ a, x = .ok a ∧ f a = .ok b := by
  rcases x with e | a
  · simp [bind, Except.bind]
  · simp [bind, Except.bind]

/-- After a part that returned, the rest of the sequence goes on with its value. -/
theorem bind_of_eq_ok {x : Except ε α} {f : α → Except ε β} {a : α} (h : x = .ok a) :
    (x >>= f) = f a := by
  rw [h]
  rfl

/-- A guard was passed exactly when its condition holds. -/
theorem require_eq_ok {p : Prop} [Decidable p] {e : ε} {a : PUnit.{v + 1}} :
    require p e = .ok a ↔ p := by
  by_cases h : p
  · simp [require, h]
  · simp [require, h]

theorem require_of {p : Prop} [Decidable p] {e : ε} (h : p) :
    (require p e : Except ε PUnit.{v + 1}) = .ok ⟨⟩ := if_pos h

/-- A lookup went on exactly when it found its value. -/
theorem orThrow_eq_ok {o : Option α} {e : ε} {a : α} : orThrow o e = .ok a ↔ o = some a := by
  cases o with
  | none => simp [orThrow]
  | some b => simp [orThrow]

/-- A block that ends in a value returns that value. -/
theorem pure_eq_ok {a b : α} : (pure a : Except ε α) = .ok b ↔ a = b := by
  simp [pure, Except.pure]

/-- A guard in front of a block is a choice. -/
theorem require_bind {p : Prop} [Decidable p] {e : ε} {f : PUnit → Except ε β} :
    (require p e >>= f) = if p then f ⟨⟩ else .error e := by
  unfold require
  split
  · rfl
  · rfl

theorem ite_error_eq_ok {p : Prop} [Decidable p] {x : Except ε α} {e : ε} {a : α} :
    (if p then x else .error e) = .ok a ↔ p ∧ x = .ok a := by
  by_cases h : p
  · rw [if_pos h, and_iff_right h]
  · rw [if_neg h]
    exact ⟨nofun, fun hok ↦ absurd hok.1 h⟩

/-- A guard in front of a block: the condition holds and the block returns. -/
theorem require_bind_eq_ok {p : Prop} [Decidable p] {e : ε} {f : PUnit → Except ε β} {b : β} :
    (require p e >>= f) = .ok b ↔ p ∧ f ⟨⟩ = .ok b := by
  simp only [bind_eq_ok, require_eq_ok, exists_and_left]
  exact and_congr_right fun _ ↦ ⟨fun ⟨_, h⟩ ↦ h, fun h ↦ ⟨_, h⟩⟩

/-- A lookup in front of a block: it found a value and the block returns on it. -/
theorem orThrow_bind_eq_ok {o : Option α} {e : ε} {f : α → Except ε β} {b : β} :
    (orThrow o e >>= f) = .ok b ↔ ∃ a, o = some a ∧ f a = .ok b := by
  simp only [bind_eq_ok, orThrow_eq_ok]

/-- A computation returned when it is seen to have. -/
theorem exists_eq_ok_iff {x : Except ε α} : (∃ a, x = .ok a) ↔ x.isOk = true := by
  cases x with
  | error e => simp [Except.isOk, Except.toBool]
  | ok a => simp [Except.isOk, Except.toBool]

/-- Giving an error another shape changes no result. -/
theorem mapError_eq_ok {ε' : Type u} {x : Except ε α} {f : ε → ε'} {a : α} :
    x.mapError f = .ok a ↔ x = .ok a := by
  rcases x with e | b
  · simp [Except.mapError]
  · simp [Except.mapError]

/-- A sequence returns when its first part does, and the rest does after it. -/
theorem exists_bind_eq_ok {x : Except ε α} {f : α → Except ε β} (h : ∃ a, x = .ok a)
    (hf : ∀ a, x = .ok a → ∃ b, f a = .ok b) : ∃ b, (x >>= f) = .ok b := by
  obtain ⟨a, ha⟩ := h
  obtain ⟨b, hb⟩ := hf a ha
  exact ⟨b, bind_eq_ok.mpr ⟨a, ha, hb⟩⟩

/-- A sequence threw in its first part, or in the rest of it. -/
theorem bind_eq_error {x : Except ε α} {f : α → Except ε β} {e : ε} :
    (x >>= f) = .error e ↔ x = .error e ∨ ∃ a, x = .ok a ∧ f a = .error e := by
  rcases x with e' | a
  · simp [bind, Except.bind]
  · simp [bind, Except.bind]

/-- A guard throws its own error. -/
theorem require_eq_error {p : Prop} [Decidable p] {e e' : ε} :
    (require p e : Except ε PUnit.{v + 1}) = .error e' ↔ ¬ p ∧ e = e' := by
  by_cases h : p
  · simp [require, h]
  · simp [require, h]

/-- A lookup throws its own error. -/
theorem orThrow_eq_error {o : Option α} {e e' : ε} :
    orThrow o e = .error e' ↔ o = none ∧ e = e' := by
  cases o with
  | none => simp [orThrow]
  | some a => simp [orThrow]

/-! ## What a block can throw -/

/-- Whatever the computation throws satisfies `P`. -/
def Throws (x : Except ε α) (P : ε → Prop) : Prop := ∀ e, x = .error e → P e

section Throws

variable {P : ε → Prop} {p : Prop} [Decidable p] {e : ε}

theorem throws_pure (a : α) : Throws (pure a : Except ε α) P := by
  intro e h
  cases h

theorem throws_require (h : ¬ p → P e) : Throws (require p e : Except ε PUnit.{v + 1}) P := by
  intro e' he
  obtain ⟨hp, rfl⟩ := require_eq_error.mp he
  exact h hp

theorem throws_orThrow {o : Option α} (h : o = none → P e) : Throws (orThrow o e) P := by
  intro e' he
  obtain ⟨ho, rfl⟩ := orThrow_eq_error.mp he
  exact h ho

/-- A sequence throws what its parts throw; the second part only matters where the first one
returned. -/
theorem Throws.bind {x : Except ε α} {f : α → Except ε β} (hx : Throws x P)
    (hf : ∀ a, x = .ok a → Throws (f a) P) : Throws (x >>= f) P := by
  intro e' he
  rcases bind_eq_error.mp he with hthrown | ⟨a, ha, hthrown⟩
  · exact hx e' hthrown
  · exact hf a ha e' hthrown

end Throws

/-! ## Computations that succeed together -/

/-- The one computation returns exactly when the other does. -/
def Agree {γ : Type v} (x : Except ε α) (y : Except ε γ) : Prop :=
  (∃ a, x = .ok a) ↔ ∃ c, y = .ok c

namespace Agree

variable {γ δ : Type v} {x : Except ε α} {y : Except ε γ} {f : α → Except ε β} {g : γ → Except ε δ}

theorem refl (x : Except ε α) : Agree x x := Iff.rfl

/-- Both return. -/
theorem of_ok (a : α) (c : γ) : Agree (.ok a : Except ε α) (.ok c : Except ε γ) :=
  iff_of_true ⟨a, rfl⟩ ⟨c, rfl⟩

theorem orThrow {o : Option α} {o' : Option γ} {e e' : ε} (h : (∃ a, o = some a) ↔ ∃ c, o' = some c) :
    Agree (orThrow o e) (orThrow o' e') := by
  simpa only [Agree, orThrow_eq_ok] using h

/-- Two sequences return together when their first parts do, and the rests after these. -/
theorem bind (h : Agree x y) (hfg : ∀ a c, x = .ok a → y = .ok c → Agree (f a) (g c)) :
    Agree (x >>= f) (y >>= g) := by
  simp only [Agree, bind_eq_ok]
  constructor
  · rintro ⟨b, a, hx, hf⟩
    obtain ⟨c, hy⟩ := h.mp ⟨a, hx⟩
    obtain ⟨d, hg⟩ := (hfg a c hx hy).mp ⟨b, hf⟩
    exact ⟨d, c, hy, hg⟩
  · rintro ⟨d, c, hy, hg⟩
    obtain ⟨a, hx⟩ := h.mpr ⟨c, hy⟩
    obtain ⟨b, hf⟩ := (hfg a c hx hy).mpr ⟨d, hg⟩
    exact ⟨b, a, hx, hf⟩

/-- The first parts return the same. -/
theorem bind_same {y : Except ε α} {g : α → Except ε δ} (h : ∀ a, x = .ok a ↔ y = .ok a)
    (hfg : ∀ a, y = .ok a → Agree (f a) (g a)) : Agree (x >>= f) (y >>= g) := by
  refine bind (exists_congr h) fun a c hx hy ↦ ?_
  cases ((h a).mp hx).symm.trans hy
  exact hfg a hy

end Agree

end AjoCloud.Lib
