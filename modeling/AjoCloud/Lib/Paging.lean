import AjoCloud.Lib.Table
import Mathlib.Data.List.Perm.Subperm

/-!
# Capped queries

A query with a limit and no order answers with some of the rows that match, as many as the limit allows.
Below the limit that is all of them; above it, which of them is left to the database.
-/

universe u

namespace AjoCloud.Lib

variable {α : Type u} {limit : Nat} {matching page : List α}

/-- The rows are among those that match, in any order, and as many as the limit allows. -/
structure IsPage (limit : Nat) (matching page : List α) : Prop where
  subperm : page.Subperm matching
  length_eq : page.length = min limit matching.length

theorem IsPage.subset (h : IsPage limit matching page) : page ⊆ matching := h.subperm.subset

/-- The first rows are a page. -/
theorem IsPage.take (limit : Nat) (matching : List α) : IsPage limit matching (matching.take limit) :=
  ⟨(List.take_sublist limit matching).subperm, List.length_take⟩

/-- Up to the limit a page is all that matches. -/
theorem IsPage.perm (h : IsPage limit matching page) (hle : matching.length ≤ limit) :
    page.Perm matching :=
  h.subperm.perm_of_length_le (h.length_eq.trans (min_eq_right hle)).ge

/-- A page has everything exactly up to the limit. -/
theorem IsPage.subset_iff (h : IsPage limit matching page) (hnodup : matching.Nodup) :
    matching ⊆ page ↔ matching.length ≤ limit := by
  constructor
  · intro hsubset
    have hle : matching.length ≤ page.length := (hnodup.subperm hsubset).length_le
    exact hle.trans (h.length_eq ▸ min_le_left limit matching.length)
  · intro hle
    exact (h.perm hle).symm.subset

section Keys

variable {ρ κ : Type u} [Schema ρ] {t : Table ρ} {p q : ρ → Bool} {rows : List ρ}

/-- A page of a table has the keys of all rows that match exactly up to the limit. -/
theorem IsPage.mem_keys_iff (h : IsPage limit (t.findMany p) rows) (key : ρ → κ)
    (hkey : ∀ a b, key a = key b → Schema.Clash a b) :
    (∀ k, k ∈ rows.map key ↔ k ∈ (t.findMany p).map key) ↔ (t.findMany p).length ≤ limit := by
  rw [← h.subset_iff (t.nodup.filter _)]
  constructor
  · intro hkeys r hr
    obtain ⟨r', hr', heq⟩ := List.mem_map.mp ((hkeys (key r)).mpr (List.mem_map_of_mem hr))
    have hmem := (Table.mem_findMany.mp hr).1
    have hmem' := (Table.mem_findMany.mp (h.subset hr')).1
    exact t.eq_of_clash hmem' hmem (hkey r' r heq) ▸ hr'
  · intro hsubset k
    exact ⟨fun hk ↦ List.map_subset key h.subset hk, fun hk ↦ List.map_subset key hsubset hk⟩

/-- A page of a narrower query has the keys of all rows that match exactly when the query narrows
nothing and it is up to the limit. -/
theorem IsPage.mem_keys_iff_of_narrower (h : IsPage limit (t.findMany p) rows) (key : ρ → κ)
    (hkey : ∀ a b, key a = key b → Schema.Clash a b) (hpq : ∀ r, p r = true → q r = true) :
    (∀ k, k ∈ rows.map key ↔ k ∈ (t.findMany q).map key) ↔
      (∀ r ∈ t.rows, q r = true → p r = true) ∧ (t.findMany p).length ≤ limit := by
  have hsame (hqp : ∀ r ∈ t.rows, q r = true → p r = true) : t.findMany q = t.findMany p := by
    refine List.filter_congr fun r hr ↦ ?_
    rw [Bool.eq_iff_iff]
    exact ⟨hqp r hr, hpq r⟩
  constructor
  · intro hkeys
    have hqp : ∀ r ∈ t.rows, q r = true → p r = true := by
      intro r hr hq
      have hk : key r ∈ (t.findMany q).map key :=
        List.mem_map_of_mem (Table.mem_findMany.mpr ⟨hr, hq⟩)
      obtain ⟨r', hr', heq⟩ := List.mem_map.mp ((hkeys (key r)).mpr hk)
      obtain ⟨hmem, hp⟩ := Table.mem_findMany.mp (h.subset hr')
      exact t.eq_of_clash hmem hr (hkey r' r heq) ▸ hp
    rw [hsame hqp] at hkeys
    exact ⟨hqp, (h.mem_keys_iff key hkey).mp hkeys⟩
  · rintro ⟨hqp, hle⟩
    rw [hsame hqp]
    exact (h.mem_keys_iff key hkey).mpr hle

end Keys

end AjoCloud.Lib
