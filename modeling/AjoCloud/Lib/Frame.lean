import AjoCloud.Lib.Table
import Mathlib.Data.List.Find

/-!
# Tables that others write to

Between two moments, others add rows to a table or rewrite some.  A lookup, an insertion or an update
comes out as it would have before, as long as the rows that were added or rewritten are none of its
business.
-/

universe u

namespace AjoCloud.Lib.Table

variable {ρ : Type u} [Schema ρ] {P Q : ρ → Prop} {R S : ρ → ρ → Prop} {t t' t'' : Table ρ}
  {p : ρ → Bool} {g : ρ → ρ} {r row : ρ}

/-! ## Rows that are added -/

/-- Rows with the property were added. -/
def Grown (P : ρ → Prop) (t t' : Table ρ) : Prop := ∃ new, t'.rows = t.rows ++ new ∧ ∀ r ∈ new, P r

theorem Grown.refl (t : Table ρ) : Grown P t t := ⟨[], (List.append_nil _).symm, nofun⟩

theorem Grown.of_eq (h : t' = t) : Grown P t t' := by
  rw [h]
  exact .refl t

theorem Grown.trans (h : Grown P t t') (h' : Grown P t' t'') : Grown P t t'' := by
  obtain ⟨new, hrows, hnew⟩ := h
  obtain ⟨new', hrows', hnew'⟩ := h'
  refine ⟨new ++ new', by rw [hrows', hrows, List.append_assoc], fun r hr ↦ ?_⟩
  rcases List.mem_append.mp hr with hr | hr
  · exact hnew r hr
  · exact hnew' r hr

theorem Grown.mono (h : Grown P t t') (hPQ : ∀ r, P r → Q r) : Grown Q t t' := by
  obtain ⟨new, hrows, hnew⟩ := h
  exact ⟨new, hrows, fun r hr ↦ hPQ r (hnew r hr)⟩

theorem Grown.of_rows (h : t'.rows = t.rows ++ [row]) (hP : P row) : Grown P t t' :=
  ⟨[row], h, by simpa using hP⟩

theorem Grown.mem (h : Grown P t t') (hr : r ∈ t.rows) : r ∈ t'.rows := by
  obtain ⟨new, hrows, -⟩ := h
  exact hrows ▸ List.mem_append_left _ hr

/-- A row is an old one or has the property. -/
theorem Grown.cases (h : Grown P t t') (hr : r ∈ t'.rows) : r ∈ t.rows ∨ P r := by
  obtain ⟨new, hrows, hnew⟩ := h
  rw [hrows] at hr
  exact (List.mem_append.mp hr).imp_right (hnew r)

/-- A lookup that no added row answers. -/
theorem Grown.find?_eq (h : Grown P t t') (hp : ∀ r, P r → p r = false) : t'.find? p = t.find? p := by
  obtain ⟨new, hrows, hnew⟩ := h
  have hnone : new.find? p = none :=
    List.find?_eq_none.mpr fun r hr ↦ by simp [hp r (hnew r hr)]
  rw [find?, find?, hrows, List.find?_append, hnone, Option.or_none]

/-- A lookup finds what it found, and otherwise nothing or an added row. -/
theorem Grown.find?_cases (h : Grown P t t') :
    t'.find? p = t.find? p ∨ t.find? p = none ∧ ∃ r, t'.find? p = some r ∧ P r := by
  obtain ⟨new, hrows, hnew⟩ := h
  rw [find?, find?, hrows, List.find?_append]
  cases t.rows.find? p with
  | some r => exact .inl rfl
  | none =>
      cases hfind : new.find? p with
      | none => exact .inl rfl
      | some r => exact .inr ⟨rfl, r, rfl, hnew r (List.mem_of_find?_eq_some hfind)⟩

/-- Being without a clash with a row, when no added row clashes with it. -/
theorem Grown.fresh_iff (h : Grown P t t') (hrow : ∀ r, P r → ¬ Schema.Clash r row) :
    (∀ r ∈ t'.rows, ¬ Schema.Clash r row) ↔ ∀ r ∈ t.rows, ¬ Schema.Clash r row := by
  refine ⟨fun hfresh r hr ↦ hfresh r (h.mem hr), fun hfresh r hr ↦ ?_⟩
  rcases h.cases hr with hr | hP
  · exact hfresh r hr
  · exact hrow r hP

theorem exists_insert_iff :
    (∃ u, t.insert row = some u) ↔ ∀ r ∈ t.rows, ¬ Schema.Clash r row := by
  constructor
  · rintro ⟨u, hu⟩
    exact (insert_eq_some.mp hu).1
  · intro hfresh
    rw [Table.insert, dif_pos hfresh]
    exact ⟨_, rfl⟩

/-- An insertion goes through as before. -/
theorem Grown.exists_insert_iff (h : Grown P t t') (hrow : ∀ r, P r → ¬ Schema.Clash r row) :
    (∃ u, t'.insert row = some u) ↔ ∃ u, t.insert row = some u := by
  rw [Table.exists_insert_iff, Table.exists_insert_iff, h.fresh_iff hrow]

/-! ## Rows that are rewritten -/

/-- Rows were rewritten in place, each into one it stands in the relation to. -/
def Redone (R : ρ → ρ → Prop) (t t' : Table ρ) : Prop :=
  ∃ f : ρ → ρ, t'.rows = t.rows.map f ∧ ∀ r ∈ t.rows, R r (f r)

theorem Redone.refl (hR : ∀ r, R r r) (t : Table ρ) : Redone R t t :=
  ⟨id, (List.map_id _).symm, fun r _ ↦ hR r⟩

theorem Redone.trans (hR : ∀ a b c, R a b → R b c → R a c) (h : Redone R t t')
    (h' : Redone R t' t'') : Redone R t t'' := by
  obtain ⟨f, hrows, hf⟩ := h
  obtain ⟨f', hrows', hf'⟩ := h'
  refine ⟨f' ∘ f, by rw [hrows', hrows, List.map_map], fun r hr ↦ ?_⟩
  exact hR _ _ _ (hf r hr) (hf' (f r) (hrows ▸ List.mem_map_of_mem hr))

theorem Redone.mono (h : Redone R t t') (hRS : ∀ r ∈ t.rows, ∀ r', R r r' → S r r') :
    Redone S t t' := by
  obtain ⟨f, hrows, hf⟩ := h
  exact ⟨f, hrows, fun r hr ↦ hRS r hr _ (hf r hr)⟩

/-- The rows that satisfy `p` were rewritten with `g`. -/
theorem Redone.of_rows (hrows : t'.rows = t.rows.map fun r ↦ if p r then g r else r)
    (hg : ∀ r ∈ t.rows, p r = true → R r (g r)) (hR : ∀ r, R r r) : Redone R t t' := by
  refine ⟨fun r ↦ if p r then g r else r, hrows, fun r hr ↦ ?_⟩
  beta_reduce
  split
  · next hpr => exact hg r hr hpr
  · exact hR r

/-- A lookup by columns that are kept finds the row it found, rewritten. -/
theorem find?_of_rows (hrows : t'.rows = t.rows.map fun r ↦ if p r then g r else r) {q : ρ → Bool}
    (hq : ∀ r, p r = true → q (g r) = q r) :
    t'.find? q = (t.find? q).map fun r ↦ if p r then g r else r := by
  rw [find?, find?, hrows, List.find?_map]
  congr 1
  refine List.find?_congr fun r _ ↦ ?_
  rw [Function.comp_apply]
  split
  · next hpr => exact hq r hpr
  · rfl

theorem Redone.exists_of_mem (h : Redone R t t') (hr : r ∈ t.rows) : ∃ r' ∈ t'.rows, R r r' := by
  obtain ⟨f, hrows, hf⟩ := h
  exact ⟨f r, hrows ▸ List.mem_map_of_mem hr, hf r hr⟩

theorem Redone.exists_of_mem_after (h : Redone R t t') (hr : r ∈ t'.rows) : ∃ r₀ ∈ t.rows, R r₀ r := by
  obtain ⟨f, hrows, hf⟩ := h
  obtain ⟨r₀, hr₀, rfl⟩ := List.mem_map.mp (hrows ▸ hr)
  exact ⟨r₀, hr₀, hf r₀ hr₀⟩

/-- A lookup by columns that are kept finds the same row, rewritten. -/
theorem Redone.find?_cases (h : Redone R t t') (hp : ∀ r r', R r r' → p r' = p r) :
    (t.find? p = none ∧ t'.find? p = none) ∨
      ∃ r r', r ∈ t.rows ∧ R r r' ∧ t.find? p = some r ∧ t'.find? p = some r' := by
  obtain ⟨f, hrows, hf⟩ := h
  have hfind : t'.find? p = (t.find? p).map f := by
    rw [find?, find?, hrows, List.find?_map]
    congr 1
    exact List.find?_congr fun r hr ↦ hp r (f r) (hf r hr)
  cases hr : t.find? p with
  | none => exact .inl ⟨rfl, by rw [hfind, hr]; rfl⟩
  | some r =>
      have hmem := mem_of_find? hr
      exact .inr ⟨r, f r, hmem, hf r hmem, rfl, by rw [hfind, hr]; rfl⟩

/-- A lookup that only rows answer that are left alone. -/
theorem Redone.find?_eq (h : Redone R t t') (hp : ∀ r r', R r r' → p r' = p r)
    (hsame : ∀ r ∈ t.rows, ∀ r', R r r' → p r = true → r' = r) : t'.find? p = t.find? p := by
  rcases h.find?_cases hp with ⟨hnone, hnone'⟩ | ⟨r, r', hr, hR, hfind, hfind'⟩
  · rw [hnone, hnone']
  · rw [hfind, hfind', hsame r hr r' hR (prop_of_find? hfind)]

/-- An update of a single row goes through unless the rewritten row clashes with another. -/
theorem exists_update_iff (hsingle : ∀ a ∈ t.rows, ∀ b ∈ t.rows, p a = true → p b = true → a = b) :
    (∃ u, t.update p g = some u) ↔
      ∀ a ∈ t.rows, p a = true → ∀ b ∈ t.rows, p b = false → ¬ Schema.Clash (g a) b := by
  have : Std.Symm fun a b : ρ ↦ ¬ Schema.Clash (if p a then g a else a) (if p b then g b else b) :=
    ⟨fun _ _ hab hba ↦ hab (Schema.symm hba)⟩
  constructor
  · rintro ⟨u, hu⟩ a ha hpa b hb hpb
    rw [update] at hu
    split at hu
    · next hunique =>
        have hne : a ≠ b := by
          rintro rfl
          rw [hpa] at hpb
          cases hpb
        have hclash := (List.pairwise_map.mp hunique).forall ha hb hne
        rwa [if_pos hpa, if_neg (by simp [hpb])] at hclash
    · cases hu
  · intro h
    refine t.exists_update_of p g fun a ha b hb hab ↦ ?_
    cases hpa : p a with
    | true =>
        cases hpb : p b with
        | true => exact absurd (hsingle a ha b hb hpa hpb ▸ Schema.refl a) hab
        | false => simpa using h a ha hpa b hb hpb
    | false =>
        cases hpb : p b with
        | true => simpa using fun hclash ↦ h b hb hpb a ha hpa (Schema.symm hclash)
        | false => simpa using hab

/-- An update of a row that is left alone goes through as before, if none of the rewritten rows clashes
with it now or did before. -/
theorem Redone.exists_update_iff (h : Redone R t t') (hp : ∀ r r', R r r' → p r' = p r)
    (hsame : ∀ r ∈ t.rows, ∀ r', R r r' → p r = true → r' = r)
    (hsingle : ∀ a ∈ t.rows, ∀ b ∈ t.rows, p a = true → p b = true → a = b)
    (hclash : ∀ a ∈ t.rows, p a = true → ∀ b ∈ t.rows, p b = false → ∀ b', R b b' →
      (Schema.Clash (g a) b' ↔ Schema.Clash (g a) b)) :
    (∃ u, t'.update p g = some u) ↔ ∃ u, t.update p g = some u := by
  have hback : ∀ a' ∈ t'.rows, p a' = true → a' ∈ t.rows := by
    intro a' ha' hpa'
    obtain ⟨a, ha, hR⟩ := h.exists_of_mem_after ha'
    rw [hsame a ha a' hR ((hp a a' hR).symm.trans hpa')]
    exact ha
  have hforth : ∀ a ∈ t.rows, p a = true → a ∈ t'.rows := by
    intro a ha hpa
    obtain ⟨a', ha', hR⟩ := h.exists_of_mem ha
    exact hsame a ha a' hR hpa ▸ ha'
  rw [Table.exists_update_iff hsingle, Table.exists_update_iff fun a ha b hb hpa hpb ↦
    hsingle a (hback a ha hpa) b (hback b hb hpb) hpa hpb]
  constructor
  · intro hnew a ha hpa b hb hpb
    obtain ⟨b', hb', hR⟩ := h.exists_of_mem hb
    rw [← hclash a ha hpa b hb hpb b' hR]
    exact hnew a (hforth a ha hpa) hpa b' hb' ((hp b b' hR).trans hpb)
  · intro hold a ha hpa b' hb' hpb'
    obtain ⟨b, hb, hR⟩ := h.exists_of_mem_after hb'
    have hpb := (hp b b' hR).symm.trans hpb'
    rw [hclash a (hback a ha hpa) hpa b hb hpb b' hR]
    exact hold a (hback a ha hpa) hpa b hb hpb

end AjoCloud.Lib.Table
