import AjoCloud.Lib.Frame
import AjoCloud.Lib.Result
import Mathlib.Logic.Function.Basic

/-!
# Runs without some of the callers

Callers share a state and each of them has a place of its own in what it does.  `Callers.purge` is the rule
for a run from which the steps of some callers are taken out: what the others see of the state and where
they are does not change, when the steps that are taken out keep to the rows that nobody else looks at.
`Woven` is what such rows are to a table, and `Lockstep` what two computations are that cannot tell the
difference.
-/

universe u v w

namespace AjoCloud.Lib

/-! ## Rows in between -/

section Woven

variable {ρ : Type u} {P Q : ρ → Prop} {rows rows' more more' : List ρ}

/-- Some rows with the property stand between the others. -/
inductive Woven (P : ρ → Prop) : List ρ → List ρ → Prop
  | nil : Woven P [] []
  | kept (r : ρ) {rows rows' : List ρ} (h : Woven P rows rows') : Woven P (r :: rows) (r :: rows')
  | between {r : ρ} {rows rows' : List ρ} (hr : P r) (h : Woven P rows rows') : Woven P (r :: rows) rows'

namespace Woven

theorem refl (rows : List ρ) : Woven P rows rows := by
  induction rows with
  | nil => exact .nil
  | cons r rows ih => exact .kept r ih

theorem append (h : Woven P rows rows') (h' : Woven P more more') :
    Woven P (rows ++ more) (rows' ++ more') := by
  induction h with
  | nil => exact h'
  | kept r _ ih => exact .kept r ih
  | between hr _ ih => exact .between hr ih

/-- A row that is added on both sides. -/
theorem concat (h : Woven P rows rows') (r : ρ) : Woven P (rows ++ [r]) (rows' ++ [r]) :=
  h.append (.refl [r])

/-- A row in between that is added. -/
theorem concat_between {r : ρ} (h : Woven P rows rows') (hr : P r) : Woven P (rows ++ [r]) rows' := by
  have hboth := h.append (.between hr .nil)
  rwa [List.append_nil] at hboth

theorem cases_mem {r : ρ} (h : Woven P rows rows') (hr : r ∈ rows) : r ∈ rows' ∨ P r := by
  induction h with
  | nil => cases hr
  | kept x _ ih =>
      rcases List.mem_cons.mp hr with rfl | hr
      · exact .inl List.mem_cons_self
      · exact (ih hr).imp_left (List.mem_cons_of_mem x)
  | between hx _ ih =>
      rcases List.mem_cons.mp hr with rfl | hr
      · exact .inr hx
      · exact ih hr

theorem mem {r : ρ} (h : Woven P rows rows') (hr : r ∈ rows') : r ∈ rows := by
  induction h with
  | nil => exact hr
  | kept x _ ih =>
      rcases List.mem_cons.mp hr with rfl | hr
      · exact List.mem_cons_self
      · exact List.mem_cons_of_mem x (ih hr)
  | between _ _ ih => exact List.mem_cons_of_mem _ (ih hr)

/-- A test that the rows in between fail. -/
theorem filter_eq {p : ρ → Bool} (h : Woven P rows rows') (hp : ∀ r, P r → p r = false) :
    rows.filter p = rows'.filter p := by
  induction h with
  | nil => rfl
  | kept r _ ih => rw [List.filter_cons, List.filter_cons, ih]
  | between hr _ ih => rw [List.filter_cons_of_neg (by simp [hp _ hr]), ih]

theorem find?_eq {p : ρ → Bool} (h : Woven P rows rows') (hp : ∀ r, P r → p r = false) :
    rows.find? p = rows'.find? p := by
  rw [← List.head?_filter, ← List.head?_filter, h.filter_eq hp]

/-- A sum to which the rows in between contribute nothing. -/
theorem sumWhere_eq {p : ρ → Bool} {f : ρ → Int} (h : Woven P rows rows') (hf : ∀ r, P r → f r = 0) :
    sumWhere rows p f = sumWhere rows' p f := by
  induction h with
  | nil => rfl
  | kept r _ ih => rw [sumWhere_cons, sumWhere_cons, ih]
  | between hr _ ih => rw [sumWhere_cons, hf _ hr, ite_self, zero_add, ih]

end Woven

end Woven

/-! ## Computations in step -/

section Lockstep

variable {ε : Type u} {α β γ δ : Type v} {R : α → β → Prop} {S : γ → δ → Prop}

/-- Both computations throw the same, or both return, and what they return is related. -/
inductive Lockstep (R : α → β → Prop) : Except ε α → Except ε β → Prop
  | error (e : ε) : Lockstep R (.error e) (.error e)
  | ok {a : α} {b : β} (h : R a b) : Lockstep R (.ok a) (.ok b)

namespace Lockstep

theorem bind {x : Except ε α} {y : Except ε β} {f : α → Except ε γ} {g : β → Except ε δ}
    (h : Lockstep R x y) (hfg : ∀ a b, x = .ok a → y = .ok b → R a b → Lockstep S (f a) (g b)) :
    Lockstep S (x >>= f) (y >>= g) := by
  cases h with
  | error e => exact .error e
  | ok h => exact hfg _ _ rfl rfl h

theorem mono {T : α → β → Prop} {x : Except ε α} {y : Except ε β} (h : Lockstep R x y)
    (hRT : ∀ a b, x = .ok a → y = .ok b → R a b → T a b) : Lockstep T x y := by
  cases h with
  | error e => exact .error e
  | ok h => exact .ok (hRT _ _ rfl rfl h)

/-- The first parts are the same. -/
theorem bind_same {x y : Except ε α} {f : α → Except ε γ} {g : α → Except ε δ} (h : x = y)
    (hfg : ∀ a, x = .ok a → Lockstep S (f a) (g a)) : Lockstep S (x >>= f) (y >>= g) := by
  subst h
  cases x with
  | error e => exact .error e
  | ok a => exact hfg a rfl

end Lockstep

/-- Insertions into a table and the one without the rows in between. -/
theorem Woven.insert {ρ : Type v} [Schema ρ] {P : ρ → Prop} {t t' : Table ρ} {row : ρ}
    (h : Woven P t.rows t'.rows) (hrow : ∀ r, P r → ¬ Schema.Clash r row) (e : ε) :
    Lockstep (fun u u' ↦ Woven P u.rows u'.rows) (orThrow (t.insert row) e) (orThrow (t'.insert row) e) := by
  by_cases hfresh : ∀ r ∈ t'.rows, ¬ Schema.Clash r row
  · have hfresh' : ∀ r ∈ t.rows, ¬ Schema.Clash r row := fun r hr ↦ (h.cases_mem hr).elim (hfresh r) (hrow r)
    rw [Table.insert, dif_pos hfresh', Table.insert, dif_pos hfresh]
    exact .ok (h.concat row)
  · have hfresh' : ¬ ∀ r ∈ t.rows, ¬ Schema.Clash r row := fun hall ↦ hfresh fun r hr ↦ hall r (h.mem hr)
    rw [Table.insert, dif_neg hfresh', Table.insert, dif_neg hfresh]
    exact .error e

end Lockstep

/-! ## Callers -/

/-- The state that is shared, and where each caller is. -/
structure Callers (σ : Type u) (ι : Type v) (φ : Type w) where
  shared : σ
  place : ι → φ

namespace Callers

variable {σ : Type u} {ι : Type v} {φ : Type w} {ω : Type*} [DecidableEq ι]

/-- The caller takes a step. -/
def step (exec : ι → ω → σ → φ → σ × φ) (s : Callers σ ι φ) (event : ι × ω) : Callers σ ι φ where
  shared := (exec event.1 event.2 s.shared (s.place event.1)).1
  place := Function.update s.place event.1 (exec event.1 event.2 s.shared (s.place event.1)).2

theorem place_step_self (exec : ι → ω → σ → φ → σ × φ) (s : Callers σ ι φ) (i : ι) (o : ω) :
    (step exec s (i, o)).place i = (exec i o s.shared (s.place i)).2 := Function.update_self ..

theorem place_step_of_ne (exec : ι → ω → σ → φ → σ × φ) (s : Callers σ ι φ) {i j : ι} (o : ω) (h : j ≠ i) :
    (step exec s (i, o)).place j = s.place j := Function.update_of_ne h ..

/-- The states are related, and the callers that are kept are where they are. -/
structure Alike (R : σ → σ → Prop) (Q : ι → φ → Prop) (keep : ι → Bool) (s s' : Callers σ ι φ) : Prop where
  shared : R s.shared s'.shared
  place : ∀ i, keep i = true → s.place i = s'.place i ∧ Q i (s'.place i)

variable {exec : ι → ω → σ → φ → σ × φ} {R : σ → σ → Prop} {Q : ι → φ → Prop} {keep : ι → Bool}
  {ok : ι × ω → Prop}

/-- **The rule for callers that are taken out.**  Their steps leave the states related, and the steps of the
others come out the same on related states. -/
theorem purge
    (dropped : ∀ i o s s' x, keep i = false → ok (i, o) → R s s' → R (exec i o s x).1 s')
    (kept : ∀ i o s s' x, keep i = true → ok (i, o) → R s s' → Q i x →
      R (exec i o s x).1 (exec i o s' x).1 ∧ (exec i o s x).2 = (exec i o s' x).2 ∧ Q i (exec i o s' x).2)
    {s s' : Callers σ ι φ} (h : Alike R Q keep s s') (events : List (ι × ω)) (hok : ∀ e ∈ events, ok e) :
    Alike R Q keep (events.foldl (step exec) s) ((events.filter fun e ↦ keep e.1).foldl (step exec) s') := by
  induction events generalizing s s' with
  | nil => exact h
  | cons event events ih =>
      obtain ⟨i, o⟩ := event
      rw [List.forall_mem_cons] at hok
      cases hi : keep i with
      | false =>
          rw [List.filter_cons_of_neg (by simp [hi])]
          refine ih ⟨dropped i o _ _ _ hi hok.1 h.shared, fun j hj ↦ ?_⟩ hok.2
          have hne : j ≠ i := by
            rintro rfl
            rw [hi] at hj
            cases hj
          rw [place_step_of_ne exec s o hne]
          exact h.place j hj
      | true =>
          rw [List.filter_cons_of_pos (by simp [hi])]
          obtain ⟨hplace, hQ⟩ := h.place i hi
          obtain ⟨hshared, hnext, hQ'⟩ := kept i o s.shared s'.shared (s'.place i) hi hok.1 h.shared hQ
          refine ih ⟨?_, fun j hj ↦ ?_⟩ hok.2
          · rw [step, step, hplace]
            exact hshared
          · by_cases hji : j = i
            · subst hji
              rw [place_step_self, place_step_self, hplace]
              exact ⟨hnext, hQ'⟩
            · rw [place_step_of_ne exec s o hji, place_step_of_ne exec s' o hji]
              exact h.place j hj

end Callers

end AjoCloud.Lib
