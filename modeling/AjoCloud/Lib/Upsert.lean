import AjoCloud.Lib.Table

/-!
# Upserting

A row is looked up by a unique column: it is rewritten when it is there, and stored when it is not.
Afterwards the column picks the one row that was written, and the other rows are as they were.  Over
many such writes no row is lost.
-/

universe u

namespace AjoCloud.Lib

variable {ρ : Type u} [Schema ρ] {t t' : Table ρ} {p : ρ → Bool} {create r : ρ} {f : ρ → ρ}
  {keep : ∀ {a b}, Schema.Clash (f a) b → Schema.Clash a b}

/-- Rewrite the row that `p` picks, or store `create`; and the row that is there afterwards. -/
def Table.upsert (t : Table ρ) (p : ρ → Bool) (create : ρ) (f : ρ → ρ)
    (keep : ∀ {a b}, Schema.Clash (f a) b → Schema.Clash a b) : Option (ρ × Table ρ) :=
  match t.find? p with
  | some r => some (f r, t.modify p f keep)
  | none => (t.insert create).map fun t' ↦ (create, t')

/-- The row is the only one that `p` picks, and the others are those that were there. -/
structure Upserted (t t' : Table ρ) (p : ρ → Bool) (create : ρ) (f : ρ → ρ) (r : ρ) : Prop where
  origin : r = create ∨ ∃ r₀ ∈ t.rows, r = f r₀ ∧ p r₀ = true
  picked : p r = true
  mem_iff : ∀ x, x ∈ t'.rows ↔ x = r ∨ (x ∈ t.rows ∧ p x = false)

/-- An upsert by a unique column that it leaves alone. -/
theorem Table.upserted (h : t.upsert p create f keep = some (r, t'))
    (hunique : ∀ a b, p a = true → p b = true → Schema.Clash a b) (hcreate : p create = true)
    (hf : ∀ x, p x = true → p (f x) = true) : Upserted t t' p create f r := by
  unfold upsert at h
  split at h
  · next r₀ hfind =>
      cases h
      have hpicked := prop_of_find? hfind
      refine ⟨.inr ⟨r₀, mem_of_find? hfind, rfl, hpicked⟩, hf r₀ hpicked, fun x ↦ ?_⟩
      rw [mem_modify]
      constructor
      · rintro (hold | ⟨y, hy, hpy, rfl⟩)
        · exact .inr hold
        · rw [t.eq_of_clash hy (mem_of_find? hfind) (hunique y r₀ hpy hpicked)]
          exact .inl rfl
      · rintro (rfl | hold)
        · exact .inr ⟨r₀, mem_of_find? hfind, hpicked, rfl⟩
        · exact .inl hold
  · next hnone =>
      obtain ⟨t'', hinsert, heq⟩ := Option.map_eq_some_iff.mp h
      cases heq
      refine ⟨.inl rfl, hcreate, fun x ↦ ?_⟩
      rw [rows_of_insert hinsert, List.mem_append, List.mem_singleton]
      constructor
      · rintro (hx | rfl)
        · exact .inr ⟨hx, by simpa using not_of_find?_eq_none hnone hx⟩
        · exact .inl rfl
      · rintro (rfl | ⟨hx, -⟩)
        · exact .inr rfl
        · exact .inl hx

/-- A rewriting that leaves the rows that it finds as they are. -/
theorem Table.modify_of_same (h : ∀ r ∈ t.rows, p r = true → f r = r) : t.modify p f keep = t := by
  refine Table.ext ((List.map_congr_left fun r hr ↦ ?_).trans t.rows.map_id)
  split
  · next hp => exact h r hr hp
  · rfl

/-- An upsert of what is there already. -/
theorem Table.upsert_of_same (hr : r ∈ t.rows) (hp : p r = true)
    (hunique : ∀ a b, p a = true → p b = true → Schema.Clash a b) (hf : f r = r) :
    t.upsert p create f keep = some (r, t) := by
  have hfind : t.find? p = some r := t.find?_eq_some_of_mem hr hp fun x _ hx ↦ hunique x r hx hp
  have hmodify : t.modify p f keep = t := by
    refine modify_of_same fun x hx hpx ↦ ?_
    rw [t.eq_of_clash hx hr (hunique x r hpx hp), hf]
  rw [upsert, hfind]
  simp only [hf, hmodify]

/-! ## Rows that are rewritten or added -/

variable {R S : ρ → ρ → Prop} {New : ρ → Prop} {t'' : Table ρ}

/-- Every row was rewritten into one it stands in the relation to, and the other rows are new. -/
structure Revised (R : ρ → ρ → Prop) (New : ρ → Prop) (t t' : Table ρ) : Prop where
  kept : ∀ r ∈ t.rows, ∃ r' ∈ t'.rows, R r r'
  origin : ∀ r' ∈ t'.rows, (∃ r ∈ t.rows, R r r') ∨ New r'

theorem Revised.refl (hR : ∀ r, R r r) (t : Table ρ) : Revised R New t t where
  kept r hr := ⟨r, hr, hR r⟩
  origin r hr := .inl ⟨r, hr, hR r⟩

theorem Revised.trans (hR : ∀ a b c, R a b → R b c → R a c) (hNew : ∀ a b, New a → R a b → New b)
    (h : Revised R New t t') (h' : Revised R New t' t'') : Revised R New t t'' where
  kept r hr := by
    obtain ⟨r', hr', hrr'⟩ := h.kept r hr
    obtain ⟨r'', hr'', hr'r''⟩ := h'.kept r' hr'
    exact ⟨r'', hr'', hR r r' r'' hrr' hr'r''⟩
  origin r'' hr'' := by
    obtain ⟨r', hr', hr'r''⟩ | hnew := h'.origin r'' hr''
    · obtain ⟨r, hr, hrr'⟩ | hnew := h.origin r' hr'
      · exact .inl ⟨r, hr, hR r r' r'' hrr' hr'r''⟩
      · exact .inr (hNew r' r'' hnew hr'r'')
    · exact .inr hnew

/-- Nothing is new, when each new row is what an old one was rewritten into. -/
theorem Revised.closed (h : Revised R New t t')
    (hold : ∀ r' ∈ t'.rows, New r' → ∃ r ∈ t.rows, ∀ r'' ∈ t'.rows, R r r'' → r'' = r') :
    Revised R (fun _ ↦ False) t t' where
  kept := h.kept
  origin r' hr' := by
    obtain hrr' | hnew := h.origin r' hr'
    · exact .inl hrr'
    · obtain ⟨r, hr, hsame⟩ := hold r' hr' hnew
      obtain ⟨r'', hr'', hrr''⟩ := h.kept r hr
      exact .inl ⟨r, hr, hsame r'' hr'' hrr'' ▸ hrr''⟩

/-- What else is true of the rows that were rewritten. -/
theorem Revised.mono (h : Revised R New t t')
    (hRS : ∀ r ∈ t.rows, ∀ r' ∈ t'.rows, R r r' → S r r') : Revised S New t t' where
  kept r hr := by
    obtain ⟨r', hr', hrr'⟩ := h.kept r hr
    exact ⟨r', hr', hRS r hr r' hr' hrr'⟩
  origin r' hr' := by
    obtain ⟨r, hr, hrr'⟩ | hnew := h.origin r' hr'
    · exact .inl ⟨r, hr, hRS r hr r' hr' hrr'⟩
    · exact .inr hnew

theorem Revised.of_rows (hrows : t'.rows = t.rows.map fun r ↦ if p r then f r else r)
    (hR : ∀ r, R r r) (hf : ∀ r ∈ t.rows, p r = true → R r (f r)) : Revised R New t t' := by
  have hrelated : ∀ r ∈ t.rows, R r (if p r then f r else r) := by
    intro r hr
    split
    · next hp => exact hf r hr hp
    · exact hR r
  refine ⟨fun r hr ↦ ⟨_, hrows ▸ List.mem_map_of_mem hr, hrelated r hr⟩, fun r' hr' ↦ ?_⟩
  obtain ⟨r, hr, rfl⟩ := List.mem_map.mp (hrows ▸ hr')
  exact .inl ⟨r, hr, hrelated r hr⟩

/-- An upsert rewrites the row that it finds, or adds one. -/
theorem Table.revised_upsert (h : t.upsert p create f keep = some (r, t')) (hR : ∀ r, R r r)
    (hf : ∀ r ∈ t.rows, p r = true → R r (f r)) (hcreate : New create) : Revised R New t t' := by
  unfold upsert at h
  split at h
  · cases h
    exact .of_rows (rows_modify ..) hR hf
  · obtain ⟨t'', hinsert, heq⟩ := Option.map_eq_some_iff.mp h
    cases heq
    have hrows := rows_of_insert hinsert
    refine ⟨fun r hr ↦ ⟨r, ?_, hR r⟩, fun r' hr' ↦ ?_⟩
    · rw [hrows]
      exact List.mem_append_left _ hr
    · rw [hrows, List.mem_append, List.mem_singleton] at hr'
      obtain hr' | rfl := hr'
      · exact .inl ⟨r', hr', hR r'⟩
      · exact .inr hcreate

end AjoCloud.Lib
