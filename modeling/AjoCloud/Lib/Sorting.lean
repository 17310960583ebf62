import Mathlib.Data.List.Sort

/-!
# Sorting by a key

Where the keys are distinct, sorting by them forgets the order that a list had.
-/

namespace AjoCloud.Lib

variable {α β : Type} [LinearOrder β] {key : α → β} {l l' : List α}

/-- The list in the order of its keys. -/
def sortedBy (key : α → β) (l : List α) : List α := l.insertionSort fun left right ↦ key left ≤ key right

theorem perm_sortedBy (key : α → β) (l : List α) : (sortedBy key l).Perm l := List.perm_insertionSort _ l

theorem mem_sortedBy {a : α} : a ∈ sortedBy key l ↔ a ∈ l := List.mem_insertionSort _

theorem length_sortedBy (key : α → β) (l : List α) : (sortedBy key l).length = l.length :=
  (perm_sortedBy key l).length_eq

theorem pairwise_sortedBy (key : α → β) (l : List α) :
    (sortedBy key l).Pairwise fun left right ↦ key left ≤ key right := by
  have : Std.Total fun left right : α ↦ key left ≤ key right := ⟨fun a b ↦ le_total (key a) (key b)⟩
  have : IsTrans α fun left right ↦ key left ≤ key right := ⟨fun _ _ _ ↦ le_trans⟩
  exact List.pairwise_insertionSort _ l

/-- Distinct keys are in strict order. -/
theorem strict_sortedBy (hdistinct : (l.map key).Nodup) :
    (sortedBy key l).Pairwise fun left right ↦ key left < key right := by
  have hnodup : ((sortedBy key l).map key).Nodup :=
    ((perm_sortedBy key l).map _).nodup_iff.mpr hdistinct
  rw [List.Nodup, List.pairwise_map] at hnodup
  exact ((pairwise_sortedBy key l).and hnodup).imp fun h ↦ lt_of_le_of_ne h.1 h.2

/-- The order of a list does not matter, when its keys are distinct. -/
theorem sortedBy_eq_of_perm (hdistinct : (l.map key).Nodup) (hperm : l.Perm l') :
    sortedBy key l = sortedBy key l' := by
  have hsorted := strict_sortedBy hdistinct
  have hsorted' := strict_sortedBy ((hperm.map _).nodup_iff.mp hdistinct)
  have hperm' : (sortedBy key l).Perm (sortedBy key l') :=
    (perm_sortedBy key l).trans (hperm.trans (perm_sortedBy key l').symm)
  exact hperm'.eq_of_pairwise (fun _ _ _ _ h h' ↦ absurd (h.trans h') (lt_irrefl _)) hsorted hsorted'

/-- The keys of the sorted list are the sorted keys. -/
theorem map_sortedBy_eq_iff {keys : List β} (hkeys : keys.Pairwise (· ≤ ·)) :
    (sortedBy key l).map key = keys ↔ (l.map key).Perm keys := by
  constructor
  · rintro rfl
    exact ((perm_sortedBy key l).map key).symm
  · intro hperm
    have hsorted : ((sortedBy key l).map key).Pairwise (· ≤ ·) :=
      List.pairwise_map.mpr (pairwise_sortedBy key l)
    exact (((perm_sortedBy key l).map key).trans hperm).eq_of_pairwise (fun _ _ _ _ ↦ le_antisymm)
      hsorted hkeys

/-! ## The first of a sorted list -/

section First

variable {r : α → α → Prop} [DecidableRel r]

/-- The first of a sorted list, after one more came last: that one only if the first is not before it. -/
theorem head?_insertionSort_concat [Std.Total r] [IsTrans α r] (l : List α) (c : α) :
    ((l ++ [c]).insertionSort r).head? =
      some (((l.insertionSort r).head?.filter fun a ↦ r a c).getD c) := by
  have hcons (a : α) (s : List α) : (s.orderedInsert r a).head? =
      some ((s.head?.filter fun b ↦ ¬ r a b).getD a) := by
    cases s with
    | nil => rfl
    | cons b s => by_cases h : r a b <;> simp [h, Option.filter_some]
  induction l with
  | nil => rfl
  | cons a l ih =>
      rw [List.cons_append, List.insertionSort_cons, hcons, ih, List.insertionSort_cons, hcons]
      cases (l.insertionSort r).head? with
      | none => by_cases hac : r a c <;> simp [hac, Option.filter_some]
      | some m =>
          by_cases hmc : r m c
          · have htrans (ham : r a m) : r a c := IsTrans.trans a m c ham hmc
            by_cases ham : r a m
            · simp [hmc, ham, htrans ham, Option.filter_some]
            · simp [hmc, ham, Option.filter_some]
          · have hcm : r c m := (Std.Total.total m c).resolve_left hmc
            have htrans (hac : r a c) : r a m := IsTrans.trans a c m hac hcm
            by_cases hac : r a c
            · simp [hmc, htrans hac, hac, Option.filter_some]
            · by_cases ham : r a m <;> simp [hmc, hac, ham, Option.filter_some]

/-- One more element comes first itself, or leaves first what was. -/
theorem head?_of_concat [Std.Total r] [IsTrans α r] {c x : α}
    (h : ((l ++ [c]).insertionSort r).head? = some x) : x = c ∨ (l.insertionSort r).head? = some x := by
  rw [head?_insertionSort_concat, Option.some.injEq] at h
  cases hfirst : (l.insertionSort r).head?.filter fun a ↦ r a c with
  | none =>
      rw [hfirst] at h
      exact .inl h.symm
  | some a =>
      rw [hfirst] at h
      exact .inr (h ▸ (Option.filter_eq_some_iff.mp hfirst).1)

end First

end AjoCloud.Lib
