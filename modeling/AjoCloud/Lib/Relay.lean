import Mathlib.Algebra.BigOperators.Group.Finset.Basic
import Mathlib.Algebra.Order.BigOperators.Group.Finset
import Mathlib.Data.Finset.Card
import Mathlib.Data.List.Count

/-!
# Things that relieve one another

Things are issued one after the other, with a gap between any two, and each of them is used only until
the next one is issued.  Then a window as long as the gap sees uses of two of them at most.
-/

universe u v

namespace AjoCloud.Lib

variable {υ : Type u} {κ : Type v} {key : υ → κ} {issuedAt usedAt : υ → Int} {gap since : Int}
  {uses : List υ}

/-- What is used is issued with a gap, and is used between its own issue and any later one. -/
structure Relieved (gap : Int) (key : υ → κ) (issuedAt usedAt : υ → Int) (uses : List υ) : Prop where
  spaced : ∀ x ∈ uses, ∀ y ∈ uses, key x ≠ key y →
    issuedAt x + gap ≤ issuedAt y ∨ issuedAt y + gap ≤ issuedAt x
  issued : ∀ x ∈ uses, issuedAt x ≤ usedAt x
  relieved : ∀ x ∈ uses, ∀ y ∈ uses, issuedAt x < issuedAt y → usedAt x ≤ issuedAt y

/-- The uses within the window from a time on, which does not reach the end of the gap. -/
def within (gap since : Int) (usedAt : υ → Int) (uses : List υ) : List υ :=
  uses.filter fun x ↦ since ≤ usedAt x && usedAt x < since + gap

theorem mem_within {x : υ} :
    x ∈ within gap since usedAt uses ↔ x ∈ uses ∧ since ≤ usedAt x ∧ usedAt x < since + gap := by
  simp only [within, List.mem_filter, Bool.and_eq_true, decide_eq_true_eq]

namespace Relieved

/-- Of three in a row, the first is no longer used within a window in which the last one is. -/
theorem not_three (h : Relieved gap key issuedAt usedAt uses) (hgap : 0 < gap) {x y z : υ}
    (hx : x ∈ within gap since usedAt uses) (hy : y ∈ within gap since usedAt uses)
    (hz : z ∈ within gap since usedAt uses) (hxy : issuedAt x + gap ≤ issuedAt y)
    (hyz : issuedAt y + gap ≤ issuedAt z) : False := by
  obtain ⟨hx, hfrom, -⟩ := mem_within.mp hx
  obtain ⟨hy, -, -⟩ := mem_within.mp hy
  obtain ⟨hz, -, hto⟩ := mem_within.mp hz
  have hrelieved := h.relieved x hx y hy (by omega)
  have hissued := h.issued z hz
  omega

/-- A window sees two of them at most. -/
theorem card_le_two [DecidableEq κ] (h : Relieved gap key issuedAt usedAt uses) (hgap : 0 < gap) :
    ((within gap since usedAt uses).map key).toFinset.card ≤ 2 := by
  by_contra hmany
  obtain ⟨k₁, h₁, k₂, h₂, k₃, h₃, h₁₂, h₁₃, h₂₃⟩ := Finset.two_lt_card.mp (not_le.mp hmany)
  simp only [List.mem_toFinset, List.mem_map] at h₁ h₂ h₃
  obtain ⟨x, hx, rfl⟩ := h₁
  obtain ⟨y, hy, rfl⟩ := h₂
  obtain ⟨z, hz, rfl⟩ := h₃
  have hxy := h.spaced x (mem_within.mp hx).1 y (mem_within.mp hy).1 h₁₂
  have hxz := h.spaced x (mem_within.mp hx).1 z (mem_within.mp hz).1 h₁₃
  have hyz := h.spaced y (mem_within.mp hy).1 z (mem_within.mp hz).1 h₂₃
  -- The three are in a row, in one of six orders.
  rcases hxy with hxy | hyx
  · rcases hyz with hyz | hzy
    · exact h.not_three hgap hx hy hz hxy hyz
    · rcases hxz with hxz | hzx
      · exact h.not_three hgap hx hz hy hxz hzy
      · exact h.not_three hgap hz hx hy hzx hxy
  · rcases hxz with hxz | hzx
    · exact h.not_three hgap hy hx hz hyx hxz
    · rcases hyz with hyz | hzy
      · exact h.not_three hgap hy hz hx hyz hzx
      · exact h.not_three hgap hz hy hx hzy hyx

/-- **The rule for windows.**  When each of them is used a number of times at most, a window sees twice
as many uses at most. -/
theorem length_within_le [DecidableEq κ] (h : Relieved gap key issuedAt usedAt uses) (hgap : 0 < gap)
    {n : Nat} (heach : ∀ k, (uses.map key).count k ≤ n) :
    (within gap since usedAt uses).length ≤ 2 * n := by
  have hcount : ∀ k, ((within gap since usedAt uses).map key).count k ≤ n := fun k ↦
    ((List.filter_sublist.map key).count_le k).trans (heach k)
  calc (within gap since usedAt uses).length
      = ((within gap since usedAt uses).map key).length := (List.length_map _).symm
    _ = ∑ k ∈ ((within gap since usedAt uses).map key).toFinset,
          ((within gap since usedAt uses).map key).count k :=
        (List.sum_toFinset_count_eq_length _).symm
    _ ≤ ((within gap since usedAt uses).map key).toFinset.card • n :=
        Finset.sum_le_card_nsmul _ _ n fun k _ ↦ hcount k
    _ ≤ 2 * n := Nat.mul_le_mul_right n (h.card_le_two hgap)

end Relieved

end AjoCloud.Lib
