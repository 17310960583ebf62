import Mathlib.Data.List.Pairwise
import Mathlib.Data.List.Perm.Basic
import Mathlib.Order.Lattice
import Mathlib.Tactic.Common

/-!
# Half-open bands

A band runs from its lower end up to, and not including, its upper end, or has no upper end.  Bands in
order partition what lies above the first one exactly when each ends where the next one begins and
only the last one is open ended.
-/

universe u v

namespace AjoCloud.Lib.Bands

variable {α : Type u} {β : Type v} [LinearOrder α]

/-- The point lies in the band. -/
def Covers (lower : β → α) (upper : β → Option α) (b : β) (x : α) : Prop :=
  lower b ≤ x ∧ ∀ y ∈ upper b, x < y

/-- Each band ends where the next one begins, and the last one is open ended. -/
inductive Abut (lower : β → α) (upper : β → Option α) : List β → Prop
  | last {b : β} (h : upper b = none) : Abut lower upper [b]
  | cons {a b : β} {bands : List β} (h : upper a = some (lower b))
      (hrest : Abut lower upper (b :: bands)) : Abut lower upper (a :: b :: bands)

/-- Every point from `start` on lies in one band, no band is empty, and none begins before `start`. -/
structure Partitions (lower : β → α) (upper : β → Option α) (start : α) (bands : List β) : Prop where
  covered : ∀ x, start ≤ x → ∃! b, b ∈ bands ∧ Covers lower upper b x
  inhabited : ∀ b ∈ bands, ∀ y ∈ upper b, lower b < y
  starts : ∀ b ∈ bands, start ≤ lower b

variable {lower : β → α} {upper : β → Option α} {start : α} {bands bands' : List β}

theorem Partitions.perm (h : Partitions lower upper start bands) (hperm : bands.Perm bands') :
    Partitions lower upper start bands' where
  covered := by
    intro x hx
    simpa only [hperm.mem_iff] using h.covered x hx
  inhabited := fun b hb ↦ h.inhabited b (hperm.mem_iff.mpr hb)
  starts := fun b hb ↦ h.starts b (hperm.mem_iff.mpr hb)

namespace Abut

/-- Nothing is left out above the first band. -/
theorem exists_covers {b : β} (h : Abut lower upper (b :: bands)) {x : α} (hx : lower b ≤ x) :
    ∃ c ∈ b :: bands, Covers lower upper c x := by
  induction bands generalizing b with
  | nil =>
      cases h with
      | last hopen =>
          refine ⟨b, List.mem_cons_self, hx, ?_⟩
          rw [hopen]
          exact nofun
  | cons c rest ih =>
      cases h with
      | cons hnext hrest =>
          rcases lt_or_ge x (lower c) with hlt | hge
          · refine ⟨b, List.mem_cons_self, hx, ?_⟩
            rw [hnext]
            rintro _ ⟨⟩
            exact hlt
          · obtain ⟨d, hd, hcovers⟩ := ih hrest hge
            exact ⟨d, List.mem_cons_of_mem _ hd, hcovers⟩

/-- In order, no two bands share a point. -/
theorem covers_unique (h : Abut lower upper bands)
    (hsorted : bands.Pairwise fun a b ↦ lower a ≤ lower b) {x : α} {a b : β} (ha : a ∈ bands)
    (hb : b ∈ bands) (hax : Covers lower upper a x) (hbx : Covers lower upper b x) : a = b := by
  induction h with
  | last => rw [List.mem_singleton.mp ha, List.mem_singleton.mp hb]
  | @cons c d rest hnext hrest ih =>
      rw [List.pairwise_cons] at hsorted
      -- The point is before the second band, or it is not in the first one.
      have hfirst : ∀ {e : β}, e ∈ d :: rest → Covers lower upper e x →
          ¬ Covers lower upper c x := by
        intro e he hex hcx
        have hde : lower d ≤ lower e := by
          rcases List.mem_cons.mp he with rfl | he
          · exact le_rfl
          · exact (List.pairwise_cons.mp hsorted.2).1 e he
        exact absurd (hcx.2 _ hnext) (not_lt.mpr (hde.trans hex.1))
      rcases List.mem_cons.mp ha with rfl | hain
      · rcases List.mem_cons.mp hb with rfl | hbin
        · rfl
        · exact absurd hax (hfirst hbin hbx)
      · rcases List.mem_cons.mp hb with rfl | hbin
        · exact absurd hbx (hfirst hain hax)
        · exact ih hsorted.2 hain hbin

/-- The open-ended band is the last one, and covers everything from its lower end on. -/
theorem covers_of_open {b : β} (hopen : upper b = none) {x : α} (hx : lower b ≤ x) :
    Covers lower upper b x := by
  refine ⟨hx, ?_⟩
  rw [hopen]
  exact nofun

theorem partitions {b : β} (h : Abut lower upper (b :: bands))
    (hsorted : (b :: bands).Pairwise fun a b ↦ lower a < lower b) :
    Partitions lower upper (lower b) (b :: bands) where
  covered := by
    intro x hx
    obtain ⟨c, hc, hcovers⟩ := h.exists_covers hx
    refine ⟨c, ⟨hc, hcovers⟩, ?_⟩
    rintro d ⟨hd, hdx⟩
    exact h.covers_unique (hsorted.imp le_of_lt) hd hc hdx hcovers
  inhabited := by
    induction bands generalizing b with
    | nil =>
        cases h with
        | last hopen =>
            intro c hc y hy
            rw [List.mem_singleton.mp hc, hopen] at hy
            cases hy
    | cons c rest ih =>
        cases h with
        | cons hnext hrest =>
            rw [List.pairwise_cons] at hsorted
            intro d hd y hy
            rcases List.mem_cons.mp hd with rfl | hd
            · rw [hnext] at hy
              cases hy
              exact hsorted.1 c List.mem_cons_self
            · exact ih hrest hsorted.2 d hd y hy
  starts := by
    intro c hc
    rcases List.mem_cons.mp hc with rfl | hc
    · exact le_rfl
    · exact le_of_lt ((List.pairwise_cons.mp hsorted).1 c hc)

end Abut

/-- Bands that partition what lies above the first one abut. -/
theorem Partitions.abut {b : β} (h : Partitions lower upper (lower b) (b :: bands))
    (hsorted : (b :: bands).Pairwise fun a b ↦ lower a < lower b) :
    Abut lower upper (b :: bands) := by
  induction bands generalizing b with
  | nil =>
      refine .last (Option.eq_none_iff_forall_ne_some.mpr fun y hy ↦ ?_)
      -- The upper end would lie in no band.
      have hlt := h.inhabited b List.mem_cons_self y hy
      obtain ⟨c, ⟨hc, hcovers⟩, -⟩ := h.covered y hlt.le
      rw [List.mem_singleton.mp hc] at hcovers
      exact lt_irrefl y (hcovers.2 y hy)
  | cons c rest ih =>
      rw [List.pairwise_cons] at hsorted
      have hbc := hsorted.1 c List.mem_cons_self
      have hcrest : ∀ d ∈ c :: rest, lower c ≤ lower d := by
        intro d hd
        rcases List.mem_cons.mp hd with rfl | hd
        · exact le_rfl
        · exact le_of_lt ((List.pairwise_cons.mp hsorted.2).1 d hd)
      have hcc : Covers lower upper c (lower c) :=
        ⟨le_rfl, h.inhabited c (List.mem_cons_of_mem _ List.mem_cons_self)⟩
      -- The lower end of the second band is not in the first one.
      have hout : ¬ Covers lower upper b (lower c) := by
        intro hcovers
        have heq := (h.covered (lower c) hbc.le).unique ⟨List.mem_cons_self, hcovers⟩
          ⟨List.mem_cons_of_mem _ List.mem_cons_self, hcc⟩
        exact absurd (congrArg lower heq) hbc.ne
      have hnext : upper b = some (lower c) := by
        cases hupper : upper b with
        | none => exact absurd (Abut.covers_of_open hupper hbc.le) hout
        | some y =>
            rcases lt_trichotomy y (lower c) with hlt | rfl | hgt
            · -- Nothing covers the upper end of the first band.
              obtain ⟨d, ⟨hd, hcovers⟩, -⟩ :=
                h.covered y (h.inhabited b List.mem_cons_self y hupper).le
              rcases List.mem_cons.mp hd with rfl | hd
              · exact absurd (hcovers.2 y hupper) (lt_irrefl y)
              · exact absurd ((hcrest d hd).trans hcovers.1) (not_le.mpr hlt)
            · rfl
            · refine absurd ⟨hbc.le, ?_⟩ hout
              rw [hupper]
              rintro _ ⟨⟩
              exact hgt
      refine .cons hnext (ih ⟨fun x hx ↦ ?_, ?_, hcrest⟩ hsorted.2)
      · obtain ⟨d, ⟨hd, hcovers⟩, honly⟩ := h.covered x (hbc.le.trans hx)
        refine ⟨d, ⟨?_, hcovers⟩, fun e he ↦ honly e ⟨List.mem_cons_of_mem _ he.1, he.2⟩⟩
        rcases List.mem_cons.mp hd with rfl | hd
        · exact absurd (hcovers.2 _ hnext) (not_lt.mpr hx)
        · exact hd
      · exact fun d hd ↦ h.inhabited d (List.mem_cons_of_mem _ hd)

/-- The check of neighbours against the partition. -/
theorem abut_iff_partitions {b : β}
    (hsorted : (b :: bands).Pairwise fun a b ↦ lower a < lower b) :
    Abut lower upper (b :: bands) ↔ Partitions lower upper (lower b) (b :: bands) :=
  ⟨fun h ↦ h.partitions hsorted, fun h ↦ h.abut hsorted⟩

end AjoCloud.Lib.Bands
