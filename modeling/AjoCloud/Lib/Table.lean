import Mathlib.Algebra.BigOperators.Group.List.Basic
import Mathlib.Algebra.Order.BigOperators.Group.List
import Mathlib.Algebra.Ring.Int.Defs
import Mathlib.Data.List.Pairwise
import Mathlib.Tactic.Common
import Mathlib.Tactic.Ring

/-!
# Tables with unique columns

A `Table` is the list of its rows in insertion order, together with the proof that no two of
them clash on a unique column.  `Schema` says what a clash is; it is built from a primary key by
adding unique columns, which may be null.

`insert` fails on a clash, as an `INSERT` does.  `modify` rewrites rows in place and asks for a
proof that the rewriting leaves the unique columns alone.
-/

universe u v

namespace AjoCloud.Lib

/-! ## Schemas -/

/-- The unique columns of a table, given by when two rows may not stand side by side. -/
class Schema (ρ : Type u) where
  /-- The two rows agree on some unique column. -/
  Clash : ρ → ρ → Prop
  /-- The database can tell. -/
  decClash : DecidableRel Clash
  /-- A row clashes with its own copy. -/
  refl : ∀ a, Clash a a
  /-- Clashing has no direction. -/
  symm : ∀ {a b}, Clash a b → Clash b a

namespace Schema

variable {ρ : Type u} {κ : Type v} [DecidableEq κ]

/-- A table with a primary key and nothing else. -/
@[reducible] def primary (key : ρ → κ) : Schema ρ where
  Clash a b := key a = key b
  decClash a b := inferInstanceAs (Decidable (key a = key b))
  refl _ := rfl
  symm h := h.symm

/-- The same table with one more unique column, in which nulls never clash. -/
@[reducible] def unique (S : Schema ρ) (key : ρ → Option κ) : Schema ρ where
  Clash a b := S.Clash a b ∨ ((key a).isSome ∧ key a = key b)
  decClash a b :=
    have := S.decClash
    inferInstanceAs (Decidable (S.Clash a b ∨ ((key a).isSome ∧ key a = key b)))
  refl a := .inl (S.refl a)
  symm
    | .inl h => .inl (S.symm h)
    | .inr ⟨h, e⟩ => .inr ⟨e ▸ h, e.symm⟩

end Schema

instance {ρ : Type u} [Schema ρ] (a b : ρ) : Decidable (Schema.Clash a b) := Schema.decClash a b

/-! ## Tables -/

/-- The rows of a table, oldest first, no two of which clash. -/
@[ext] structure Table (ρ : Type u) [Schema ρ] where
  /-- The rows, in insertion order. -/
  rows : List ρ
  /-- No two rows agree on a unique column. -/
  unique : rows.Pairwise fun a b ↦ ¬ Schema.Clash a b

namespace Table

variable {ρ : Type u} [Schema ρ]

instance : Inhabited (Table ρ) := ⟨⟨[], .nil⟩⟩

/-- The empty table. -/
def empty : Table ρ := ⟨[], .nil⟩

instance [DecidableEq ρ] : DecidableEq (Table ρ) := fun t t' ↦
  decidable_of_iff (t.rows = t'.rows) ⟨Table.ext, congrArg Table.rows⟩

@[simp] theorem rows_empty : (empty : Table ρ).rows = [] := rfl

/-- The first row that satisfies `p`, in insertion order. -/
def find? (t : Table ρ) (p : ρ → Bool) : Option ρ := t.rows.find? p

/-- The rows that satisfy `p`, in insertion order. -/
def findMany (t : Table ρ) (p : ρ → Bool) : List ρ := t.rows.filter p

theorem mem_of_find? {t : Table ρ} {p : ρ → Bool} {r : ρ} (h : t.find? p = some r) : r ∈ t.rows :=
  List.mem_of_find?_eq_some h

theorem prop_of_find? {t : Table ρ} {p : ρ → Bool} {r : ρ} (h : t.find? p = some r) :
    p r = true := List.find?_some h

theorem not_of_find?_eq_none {t : Table ρ} {p : ρ → Bool} (h : t.find? p = none) {r : ρ}
    (hr : r ∈ t.rows) : ¬ p r = true := List.find?_eq_none.mp h r hr

@[simp] theorem mem_findMany {t : Table ρ} {p : ρ → Bool} {r : ρ} :
    r ∈ t.findMany p ↔ r ∈ t.rows ∧ p r = true := List.mem_filter

/-- Rows that clash are the same row. -/
theorem eq_of_clash (t : Table ρ) {a b : ρ} (ha : a ∈ t.rows) (hb : b ∈ t.rows)
    (h : Schema.Clash a b) : a = b := by
  have : Std.Symm fun a b : ρ ↦ ¬ Schema.Clash a b :=
    ⟨fun _ _ hab hba ↦ hab (Schema.symm hba)⟩
  by_contra hne
  exact t.unique.forall ha hb hne h

/-- No row is stored twice. -/
theorem nodup (t : Table ρ) : t.rows.Nodup :=
  t.unique.imp fun {a b} hab (heq : a = b) ↦ hab (heq ▸ Schema.refl a)

/-- A unique column holds no value twice. -/
theorem nodup_map (t : Table ρ) {κ : Type v} {key : ρ → κ}
    (h : ∀ a b, key a = key b → Schema.Clash a b) : (t.rows.map key).Nodup :=
  t.unique.map key fun a b hab heq ↦ hab (h a b heq)

/-- A lookup that only its own row can answer finds that row. -/
theorem find?_eq_some_of_mem (t : Table ρ) {p : ρ → Bool} {r : ρ} (hr : r ∈ t.rows)
    (hp : p r = true) (hu : ∀ x ∈ t.rows, p x = true → Schema.Clash x r) : t.find? p = some r := by
  cases hx : t.find? p with
  | none => exact absurd hp (not_of_find?_eq_none hx hr)
  | some x =>
      rw [t.eq_of_clash (mem_of_find? hx) hr (hu x (mem_of_find? hx) (prop_of_find? hx))]

/-! ### Inserting -/

/-- Add a row at the end, unless it clashes with one that is there. -/
def insert (t : Table ρ) (r : ρ) : Option (Table ρ) :=
  if h : ∀ x ∈ t.rows, ¬ Schema.Clash x r then
    some ⟨t.rows ++ [r], List.pairwise_append.mpr
      ⟨t.unique, List.pairwise_singleton _ _, fun x hx y hy ↦ by
        rw [List.mem_singleton.mp hy]; exact h x hx⟩⟩
  else none

/-- What an insertion that went through did. -/
theorem insert_eq_some {t t' : Table ρ} {r : ρ} :
    t.insert r = some t' ↔ (∀ x ∈ t.rows, ¬ Schema.Clash x r) ∧ t'.rows = t.rows ++ [r] := by
  by_cases h : ∀ x ∈ t.rows, ¬ Schema.Clash x r
  · rw [Table.insert, dif_pos h, Option.some.injEq]
    constructor
    · rintro rfl
      exact ⟨h, rfl⟩
    · intro ht
      exact Table.ext ht.2.symm
  · simp only [Table.insert, h, dite_false, reduceCtorEq, false_and]

theorem rows_of_insert {t t' : Table ρ} {r : ρ} (h : t.insert r = some t') :
    t'.rows = t.rows ++ [r] := (insert_eq_some.mp h).2

theorem mem_of_insert {t t' : Table ρ} {r : ρ} (h : t.insert r = some t') : r ∈ t'.rows := by
  rw [rows_of_insert h]
  exact List.mem_append_right _ (List.mem_singleton_self r)

/-- A table grows by one row, so it is not what was there. -/
theorem insert_ne_self {t : Table ρ} {r : ρ} : t.insert r ≠ some t := by
  intro h
  have hlength := congrArg List.length (rows_of_insert h)
  rw [List.length_append, List.length_singleton] at hlength
  omega

/-- What was added is the last row. -/
theorem insert_inj {t t' : Table ρ} {r r' : ρ} (h : t.insert r = some t')
    (h' : t.insert r' = some t') : r = r' := by
  have hrows := (rows_of_insert h).symm.trans (rows_of_insert h')
  exact List.singleton_inj.mp (List.append_cancel_left hrows)

/-- Add several rows one after the other, all or none. -/
def insertMany (t : Table ρ) : List ρ → Option (Table ρ)
  | [] => some t
  | r :: rs => (t.insert r).bind fun t' ↦ t'.insertMany rs

theorem rows_of_insertMany {rs : List ρ} {t t' : Table ρ} (h : t.insertMany rs = some t') :
    t'.rows = t.rows ++ rs := by
  induction rs generalizing t with
  | nil =>
      rw [insertMany, Option.some.injEq] at h
      simp [h]
  | cons r rs ih =>
      rw [insertMany, Option.bind_eq_some_iff] at h
      obtain ⟨t₁, h₁, h₂⟩ := h
      rw [ih h₂, rows_of_insert h₁, List.append_assoc, List.singleton_append]

/-! ### Modifying -/

/-- Rewrite the rows that satisfy `p` with `f`, which must leave the unique columns alone. -/
def modify (t : Table ρ) (p : ρ → Bool) (f : ρ → ρ)
    (keep : ∀ {a b}, Schema.Clash (f a) b → Schema.Clash a b) : Table ρ where
  rows := t.rows.map fun r ↦ if p r then f r else r
  unique := by
    have hk : ∀ {a b}, Schema.Clash (if p a then f a else a) b → Schema.Clash a b := by
      intro a b h
      split at h
      · exact keep h
      · exact h
    refine t.unique.map _ fun a b hab h ↦ hab ?_
    exact Schema.symm (hk (Schema.symm (hk h)))

@[simp] theorem rows_modify (t : Table ρ) (p : ρ → Bool) (f : ρ → ρ)
    (keep : ∀ {a b}, Schema.Clash (f a) b → Schema.Clash a b) :
    (t.modify p f keep).rows = t.rows.map fun r ↦ if p r then f r else r := rfl

theorem mem_modify {t : Table ρ} {p : ρ → Bool} {f : ρ → ρ}
    {keep : ∀ {a b}, Schema.Clash (f a) b → Schema.Clash a b} {r : ρ} :
    r ∈ (t.modify p f keep).rows ↔
      (r ∈ t.rows ∧ p r = false) ∨ ∃ r₀ ∈ t.rows, p r₀ = true ∧ r = f r₀ := by
  simp only [rows_modify, List.mem_map]
  constructor
  · rintro ⟨r₀, hr₀, rfl⟩
    by_cases hp : p r₀ = true
    · exact .inr ⟨r₀, hr₀, hp, by simp [hp]⟩
    · rw [if_neg hp]
      exact .inl ⟨hr₀, by simpa using hp⟩
  · rintro (⟨hr, hp⟩ | ⟨r₀, hr₀, hp, rfl⟩)
    · exact ⟨r, hr, by simp [hp]⟩
    · exact ⟨r₀, hr₀, by simp [hp]⟩

/-- Rewrite the rows that satisfy `p` with `f`, unless that makes two rows clash. -/
def update (t : Table ρ) (p : ρ → Bool) (f : ρ → ρ) : Option (Table ρ) :=
  if h : (t.rows.map fun r ↦ if p r then f r else r).Pairwise fun a b ↦ ¬ Schema.Clash a b then
    some ⟨_, h⟩
  else none

theorem rows_of_update {t t' : Table ρ} {p : ρ → Bool} {f : ρ → ρ}
    (h : t.update p f = some t') : t'.rows = t.rows.map fun r ↦ if p r then f r else r := by
  rw [update] at h
  split at h
  · cases h
    rfl
  · cases h

/-- A rewriting that makes no two rows clash goes through. -/
theorem exists_update_of (t : Table ρ) (p : ρ → Bool) (f : ρ → ρ)
    (hkeep : ∀ a ∈ t.rows, ∀ b ∈ t.rows, ¬ Schema.Clash a b →
      ¬ Schema.Clash (if p a then f a else a) (if p b then f b else b)) :
    ∃ t', t.update p f = some t' := by
  have hunique : (t.rows.map fun r ↦ if p r then f r else r).Pairwise
      fun a b ↦ ¬ Schema.Clash a b := by
    rw [List.pairwise_map]
    exact t.unique.imp_of_mem fun ha hb hab ↦ hkeep _ ha _ hb hab
  exact ⟨⟨_, hunique⟩, dif_pos hunique⟩

/-- A rewriting that leaves the unique columns alone goes through. -/
theorem exists_update (t : Table ρ) (p : ρ → Bool) {f : ρ → ρ}
    (keep : ∀ {a b}, Schema.Clash (f a) b → Schema.Clash a b) : ∃ t', t.update p f = some t' :=
  ⟨t.modify p f keep, dif_pos (t.modify p f keep).unique⟩

/-! ### Deleting -/

/-- Delete the rows that satisfy `p`. -/
def delete (t : Table ρ) (p : ρ → Bool) : Table ρ where
  rows := t.rows.filter fun r ↦ !p r
  unique := t.unique.sublist List.filter_sublist

@[simp] theorem rows_delete (t : Table ρ) (p : ρ → Bool) :
    (t.delete p).rows = t.rows.filter fun r ↦ !p r := rfl

end Table

/-! ## Rewriting one row -/

/-- The rows after one of them was rewritten. -/
theorem mem_rewrite {ρ : Type u} {rows : List ρ} {p : ρ → Bool} {f : ρ → ρ} {x r : ρ}
    (hp : ∀ y ∈ rows, p y = true → y = x) (h : r ∈ rows.map fun y ↦ if p y then f y else y) :
    (r ∈ rows ∧ p r = false) ∨ r = f x := by
  obtain ⟨y, hy, rfl⟩ := List.mem_map.mp h
  by_cases hpy : p y = true
  · rw [if_pos hpy, hp y hy hpy]
    exact .inr rfl
  · rw [if_neg hpy]
    exact .inl ⟨hy, Bool.eq_false_iff.mpr hpy⟩

/-! ## Sums over rows -/

/-- The sum of `f` over the rows that satisfy `p`. -/
def sumWhere {ρ : Type u} (rows : List ρ) (p : ρ → Bool) (f : ρ → Int) : Int :=
  ((rows.filter p).map f).sum

section SumWhere

variable {ρ : Type u} {p q : ρ → Bool} {f g : ρ → Int}

@[simp] theorem sumWhere_nil : sumWhere [] p f = 0 := rfl

theorem sumWhere_cons (r : ρ) (rows : List ρ) :
    sumWhere (r :: rows) p f = (if p r then f r else 0) + sumWhere rows p f := by
  by_cases h : p r = true
  · simp [sumWhere, h]
  · simp [sumWhere, h]

theorem sumWhere_append (rows rows' : List ρ) :
    sumWhere (rows ++ rows') p f = sumWhere rows p f + sumWhere rows' p f := by
  simp [sumWhere]

theorem sumWhere_concat (rows : List ρ) (r : ρ) :
    sumWhere (rows ++ [r]) p f = sumWhere rows p f + if p r then f r else 0 := by
  rw [sumWhere_append, sumWhere_cons, sumWhere_nil, add_zero]

/-- Sums agree when the rows contribute alike, one by one. -/
theorem sumWhere_congr {rows : List ρ}
    (h : ∀ r ∈ rows, (if p r then f r else 0) = if q r then g r else 0) :
    sumWhere rows p f = sumWhere rows q g := by
  induction rows with
  | nil => rfl
  | cons r rows ih =>
      rw [sumWhere_cons, sumWhere_cons, h r (by simp),
        ih fun x hx ↦ h x (List.mem_cons_of_mem _ hx)]

/-- A sum over rows none of which is asked for. -/
theorem sumWhere_eq_zero {rows : List ρ} (h : ∀ r ∈ rows, ¬ p r = true) :
    sumWhere rows p f = 0 := by
  rw [sumWhere, List.filter_eq_nil_iff.mpr h]
  rfl

/-- A sum that is at most another, row by row, reaches it only when every row does. -/
theorem sumWhere_le_iff {rows : List ρ} (h : ∀ r ∈ rows, p r = true → f r ≤ g r) :
    sumWhere rows p g ≤ sumWhere rows p f ↔ ∀ r ∈ rows, p r = true → f r = g r := by
  have hle : ∀ {rows : List ρ}, (∀ r ∈ rows, p r = true → f r ≤ g r) →
      sumWhere rows p f ≤ sumWhere rows p g := by
    intro rows h
    induction rows with
    | nil => exact le_refl _
    | cons r rows ih =>
        rw [List.forall_mem_cons] at h
        rw [sumWhere_cons, sumWhere_cons]
        refine add_le_add ?_ (ih h.2)
        split
        · exact h.1 ‹_›
        · exact le_refl _
  induction rows with
  | nil => simp
  | cons r rows ih =>
      rw [List.forall_mem_cons] at h ⊢
      rw [sumWhere_cons, sumWhere_cons]
      have htail := hle h.2
      have hrest := ih h.2
      by_cases hp : p r = true
      · have hr := h.1 hp
        simp only [hp, if_true, forall_const]
        constructor
        · intro hsum
          exact ⟨by omega, hrest.mp (by omega)⟩
        · rintro ⟨heq, hall⟩
          have hsum := hrest.mpr hall
          omega
      · simpa [hp] using hrest

/-- Rewriting rows changes a sum by what it changes row by row. -/
theorem sumWhere_map (rows : List ρ) (m : ρ → ρ) :
    sumWhere (rows.map m) p f = sumWhere rows (fun r ↦ p (m r)) fun r ↦ f (m r) := by
  induction rows with
  | nil => rfl
  | cons r rows ih => rw [List.map_cons, sumWhere_cons, sumWhere_cons, ih]

/-- A sum over the rows that were kept. -/
theorem sumWhere_filter (rows : List ρ) :
    sumWhere (rows.filter q) p f = sumWhere rows (fun r ↦ p r && q r) f := by
  rw [sumWhere, sumWhere, List.filter_filter]

/-- Changing the contribution of a single row changes the sum by as much. -/
theorem sumWhere_change {rows : List ρ} (hnd : rows.Nodup) {r : ρ} (hr : r ∈ rows)
    (h : ∀ x ∈ rows, x ≠ r → (if q x then g x else 0) = if p x then f x else 0) :
    sumWhere rows q g =
      sumWhere rows p f + ((if q r then g r else 0) - if p r then f r else 0) := by
  induction rows with
  | nil => cases hr
  | cons x rows ih =>
      rw [List.nodup_cons] at hnd
      rw [sumWhere_cons, sumWhere_cons]
      rcases List.mem_cons.mp hr with rfl | hr
      · have htl : sumWhere rows q g = sumWhere rows p f :=
          sumWhere_congr fun y hy ↦ h y (List.mem_cons_of_mem _ hy) fun hyr ↦ hnd.1 (hyr ▸ hy)
        rw [htl]
        ring
      · have hxr : x ≠ r := fun hxr ↦ hnd.1 (hxr ▸ hr)
        rw [h x (by simp) hxr, ih hnd.2 hr fun y hy ↦ h y (List.mem_cons_of_mem _ hy)]
        ring

/-- Rewriting a single row changes the sum by what it changes there. -/
theorem sumWhere_rewrite {rows : List ρ} (hnd : rows.Nodup) {s : ρ → Bool} {m : ρ → ρ} {r : ρ}
    (hr : r ∈ rows) (hs : ∀ x ∈ rows, s x = true ↔ x = r) :
    sumWhere (rows.map fun x ↦ if s x then m x else x) p f =
      sumWhere rows p f + ((if p (m r) then f (m r) else 0) - if p r then f r else 0) := by
  have hrow : (if s r then m r else r) = m r := if_pos ((hs r hr).mpr rfl)
  rw [sumWhere_map, sumWhere_change hnd hr (p := p) (f := f) fun x hx hne ↦ ?_, hrow]
  rw [if_neg fun hsx ↦ hne ((hs x hx).mp hsx)]

/-- A sum over a single row. -/
theorem sumWhere_eq_single {rows : List ρ} (hnd : rows.Nodup) {r : ρ} (hr : r ∈ rows)
    (hp : ∀ x ∈ rows, p x = true ↔ x = r) : sumWhere rows p f = f r := by
  have hnone : sumWhere rows (fun _ ↦ false) f = 0 := sumWhere_eq_zero fun _ _ ↦ nofun
  rw [sumWhere_change hnd hr (p := fun _ ↦ false) (f := f) fun x hx hne ↦ ?_, hnone]
  · simp [(hp r hr).mpr rfl]
  · rw [if_neg fun hpx ↦ hne ((hp x hx).mp hpx)]
    rfl

/-- A sum of two contributions. -/
theorem sumWhere_add (rows : List ρ) :
    sumWhere rows p (fun r ↦ f r + g r) = sumWhere rows p f + sumWhere rows p g := by
  induction rows with
  | nil => rfl
  | cons r rows ih =>
      rw [sumWhere_cons, sumWhere_cons, sumWhere_cons, ih]
      split
      · ring
      · ring

/-- Only which rows there are matters, not their order. -/
theorem sumWhere_perm {rows rows' : List ρ} (h : rows.Perm rows') :
    sumWhere rows p f = sumWhere rows' p f := ((h.filter p).map f).sum_eq

/-- Rows that contribute nothing may be added. -/
theorem sumWhere_of_subset {rows rows' : List ρ} (hnd : rows.Nodup) (hnd' : rows'.Nodup)
    (hsub : ∀ r ∈ rows, r ∈ rows') (hzero : ∀ r ∈ rows', r ∉ rows → f r = 0) :
    sumWhere rows' p f = sumWhere rows p f := by
  classical
  induction rows generalizing rows' with
  | nil =>
      rw [sumWhere_congr (q := fun _ ↦ false) (g := f) fun r hr ↦ ?_]
      · exact sumWhere_eq_zero fun _ _ ↦ nofun
      · rw [hzero r hr List.not_mem_nil]
        simp
  | cons r rows ih =>
      rw [List.nodup_cons] at hnd
      have hr := hsub r List.mem_cons_self
      rw [sumWhere_perm (List.perm_cons_erase hr), sumWhere_cons, sumWhere_cons]
      congr 1
      refine ih hnd.2 (hnd'.erase r) (fun x hx ↦ ?_) fun x hx hnot ↦ ?_
      · refine (List.mem_erase_of_ne ?_).mpr (hsub x (List.mem_cons_of_mem _ hx))
        rintro rfl
        exact hnd.1 hx
      · have hxr : x ≠ r := by
          rintro rfl
          exact hnd'.not_mem_erase hx
        refine hzero x (List.mem_of_mem_erase hx) fun hmem ↦ ?_
        rcases List.mem_cons.mp hmem with h | h
        · exact hxr h
        · exact hnot h

end SumWhere

end AjoCloud.Lib
