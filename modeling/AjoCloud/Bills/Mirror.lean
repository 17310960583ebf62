import AjoCloud.Bills.Freshness

/-!
# What a sync leaves behind

A sync that runs to its end, with nothing else at work and one listing throughout, makes the catalogue a
copy of that listing.  It deletes nothing, it spares what belongs to other providers, and doing it over
changes no status and no price.
-/

namespace AjoCloud.Bills

open Lib ServiceError

/-! ## A whole sync -/

/-- The last step of a sync, which retires categories. -/
def CatalogThread.ends : CatalogThread → Bool
  | .category _ _ [] => true
  | _ => false

/-- What a sync leaves that runs on from here with nothing else at work, one context a step; nothing if
it is not done by then, or has failed. -/
def complete (provider : String) (lists : Listings) :
    List Ctx → CatalogStore → CatalogThread → Option CatalogStore
  | [], _, _ => none
  | ctx :: ctxs, s, t =>
      match execCatalog provider lists ctx s t with
      | (s', some t') => complete provider lists ctxs s' t'
      | (s', none) => if t.ends then some s' else none

/-- `syncBillCatalog`, for a provider that lists the same throughout. -/
def syncBillCatalog (provider : String) (listing : Listing) (expiresAt refreshedAt : Timestamp)
    (ctxs : List Ctx) (s : CatalogStore) : Option CatalogStore :=
  complete provider (fun _ ↦ listing) ctxs s (.list expiresAt refreshedAt)

variable {provider : String} {listing : Listing} {ctx : Ctx} {catalog catalog' final : Catalog}
  {s s' : CatalogStore} {t t' : CatalogThread}

/-! ### How long it takes -/

/-- How many steps a sync takes from the first of the billers to the end of their category. -/
def billerSteps (billers : List Provider.Biller) : Nat :=
  (billers.map fun b ↦ b.products.length + 2).sum + 1

/-- How many steps it takes from the first of the categories to its end. -/
def categorySteps (listing : Listing) (categories : List Provider.BillCategory) : Nat :=
  (categories.map fun c ↦ billerSteps (listing.billers c.code) + 2).sum + 1

/-- How many steps are left when none fails. -/
def CatalogThread.duration (listing : Listing) : CatalogThread → Nat
  | .refresh => categorySteps listing listing.categories + 3
  | .list .. => categorySteps listing listing.categories + 2
  | .stamp _ _ categories => categorySteps listing categories + 1
  | .category _ _ todo => categorySteps listing todo
  | .billers c => billerSteps (listing.billers c.category.code) + 1 + categorySteps listing c.todo
  | .biller c _ todo => billerSteps todo + categorySteps listing c.todo
  | .product b todo => todo.length + 1 + billerSteps b.todo + categorySteps listing b.inside.todo
  | .revise _ => 1

theorem stored_eq_some {α : Type} {result : Except ServiceError (α × Catalog)}
    {next : α → CatalogThread} (h : (stored s result next).2 = some t) : ∃ a, next a = t := by
  unfold stored at h
  split at h
  · next a _ => exact ⟨a, Option.some.inj h⟩
  · cases h

theorem duration_execCatalog (h : (execCatalog provider (fun _ ↦ listing) ctx s t).2 = some t') :
    t'.duration listing < t.duration listing := by
  cases t with
  | refresh =>
      rw [execCatalog] at h
      split at h
      · cases h
      · cases h
        exact Nat.lt_succ_self _
  | list => cases h; exact Nat.lt_succ_self _
  | stamp => cases h; exact Nat.lt_succ_self _
  | category sync position todo =>
      cases todo with
      | nil => cases h
      | cons category todo =>
          obtain ⟨row, rfl⟩ := stored_eq_some h
          simp only [CatalogThread.duration, categorySteps, List.map_cons, List.sum_cons]
          omega
  | billers c =>
      cases h
      simp only [CatalogThread.duration]
      omega
  | biller c billers todo =>
      cases todo with
      | nil =>
          cases h
          simp only [CatalogThread.duration, billerSteps, List.map_nil, List.sum_nil]
          omega
      | cons biller todo =>
          obtain ⟨row, rfl⟩ := stored_eq_some h
          simp only [CatalogThread.duration, billerSteps, List.map_cons, List.sum_cons]
          omega
  | product b todo =>
      cases todo with
      | nil =>
          cases h
          simp only [CatalogThread.duration, List.length_nil]
          omega
      | cons product todo =>
          obtain ⟨row, rfl⟩ := stored_eq_some h
          simp only [CatalogThread.duration, List.length_cons]
          omega
  | revise revision => cases h

/-- A sync that has had its steps is done or has failed: more of them change nothing. -/
theorem complete_append {ctxs : List Ctx} (h : t.duration listing ≤ ctxs.length) (more : List Ctx) :
    complete provider (fun _ ↦ listing) (ctxs ++ more) s t =
      complete provider (fun _ ↦ listing) ctxs s t := by
  induction ctxs generalizing s t with
  | nil =>
      have hpos : 0 < t.duration listing := by
        cases t with
        | _ => simp only [CatalogThread.duration, categorySteps, billerSteps]; omega
      exact absurd hpos (Nat.not_lt.mpr h)
  | cons ctx ctxs ih =>
      rw [List.cons_append, complete, complete]
      rcases hexec : execCatalog provider (fun _ ↦ listing) ctx s t with ⟨s', _ | t'⟩
      · rfl
      · have hless : t'.duration listing < t.duration listing :=
          duration_execCatalog (congrArg Prod.snd hexec)
        rw [List.length_cons] at h
        exact ih (by omega)

/-- So is a whole one. -/
theorem syncBillCatalog_append {expiresAt refreshedAt : Timestamp} {ctxs : List Ctx}
    (h : categorySteps listing listing.categories + 2 ≤ ctxs.length) (more : List Ctx) :
    syncBillCatalog provider listing expiresAt refreshedAt (ctxs ++ more) s =
      syncBillCatalog provider listing expiresAt refreshedAt ctxs s :=
  complete_append (show (CatalogThread.list expiresAt refreshedAt).duration listing ≤ _ from h) more

/-! ## What a sync may write -/

/-- The category is listed. -/
def IsListedCategory (provider : String) (listing : Listing) (c : CatalogCategory) : Prop :=
  c.provider = provider ∧ ∃ x ∈ listing.categories, x.code = c.providerCode

/-- The biller is listed in its category. -/
def IsListedBiller (provider : String) (listing : Listing) (catalog : Catalog) (b : CatalogBiller) :
    Prop :=
  ∃ c ∈ catalog.categories.rows, c.id = b.categoryId ∧ IsListedCategory provider listing c ∧
    ∃ y ∈ listing.billers c.providerCode, y.code = b.providerCode

/-- The package is listed among those of its biller. -/
def IsListedProduct (provider : String) (listing : Listing) (catalog : Catalog) (p : CatalogProduct) :
    Prop :=
  ∃ b ∈ catalog.billers.rows, b.id = p.billerId ∧ ∃ c ∈ catalog.categories.rows,
    c.id = b.categoryId ∧ IsListedCategory provider listing c ∧
      ∃ y ∈ listing.billers c.providerCode, y.code = b.providerCode ∧
        ∃ z ∈ y.products, z.code = p.providerCode

/-- The category is still there, and another provider's is as it was. -/
structure KeepsCategory (provider : String) (c c' : CatalogCategory) : Prop where
  id : c'.id = c.id
  owner : c'.provider = c.provider
  code : c'.providerCode = c.providerCode
  others : c.provider ≠ provider → c' = c

/-- The biller is still there; outside the listed categories it is as it was. -/
structure KeepsBiller (provider : String) (listing : Listing) (catalog : Catalog)
    (b b' : CatalogBiller) : Prop where
  id : b'.id = b.id
  category : b'.categoryId = b.categoryId
  code : b'.providerCode = b.providerCode
  others : (∀ c ∈ catalog.categories.rows, c.id = b.categoryId →
    ¬ IsListedCategory provider listing c) → b' = b

/-- The package is still there; outside the listed billers it is as it was, and it keeps its price when
it is not listed. -/
structure KeepsProduct (provider : String) (listing : Listing) (catalog : Catalog)
    (p p' : CatalogProduct) : Prop where
  id : p'.id = p.id
  biller : p'.billerId = p.billerId
  code : p'.providerCode = p.providerCode
  others : (∀ b ∈ catalog.billers.rows, b.id = p.billerId →
    ¬ IsListedBiller provider listing catalog b) → p' = p
  price : p'.price = p.price ∨ IsListedProduct provider listing catalog p

/-- What came of a catalogue in a sync that leaves `final`. -/
structure Restocked (provider : String) (listing : Listing) (final catalog catalog' : Catalog) :
    Prop where
  categories : Revised (KeepsCategory provider) (IsListedCategory provider listing)
    catalog.categories catalog'.categories
  billers : Revised (KeepsBiller provider listing final) (IsListedBiller provider listing final)
    catalog.billers catalog'.billers
  products : Revised (KeepsProduct provider listing final) (IsListedProduct provider listing final)
    catalog.products catalog'.products

theorem KeepsCategory.refl (c : CatalogCategory) : KeepsCategory provider c c :=
  ⟨rfl, rfl, rfl, fun _ ↦ rfl⟩

theorem KeepsCategory.trans {a b c : CatalogCategory} (h : KeepsCategory provider a b)
    (h' : KeepsCategory provider b c) : KeepsCategory provider a c where
  id := h'.id.trans h.id
  owner := h'.owner.trans h.owner
  code := h'.code.trans h.code
  others hne := (h'.others fun heq ↦ hne (h.owner.symm.trans heq)).trans (h.others hne)

theorem KeepsCategory.listed {c c' : CatalogCategory} (h : KeepsCategory provider c c') :
    IsListedCategory provider listing c' ↔ IsListedCategory provider listing c := by
  rw [IsListedCategory, IsListedCategory, h.owner, h.code]

theorem KeepsBiller.refl (b : CatalogBiller) : KeepsBiller provider listing final b b :=
  ⟨rfl, rfl, rfl, fun _ ↦ rfl⟩

theorem KeepsBiller.trans {a b c : CatalogBiller} (h : KeepsBiller provider listing final a b)
    (h' : KeepsBiller provider listing final b c) : KeepsBiller provider listing final a c where
  id := h'.id.trans h.id
  category := h'.category.trans h.category
  code := h'.code.trans h.code
  others hnone := by
    have hsame := h.others hnone
    rw [← hsame] at hnone
    exact (h'.others hnone).trans hsame

theorem KeepsBiller.listed {b b' : CatalogBiller} (h : KeepsBiller provider listing final b b') :
    IsListedBiller provider listing catalog b' ↔ IsListedBiller provider listing catalog b := by
  rw [IsListedBiller, IsListedBiller, h.category, h.code]

theorem KeepsProduct.refl (p : CatalogProduct) : KeepsProduct provider listing final p p :=
  ⟨rfl, rfl, rfl, fun _ ↦ rfl, .inl rfl⟩

theorem KeepsProduct.listed {p p' : CatalogProduct} (h : KeepsProduct provider listing final p p') :
    IsListedProduct provider listing catalog p' ↔ IsListedProduct provider listing catalog p := by
  rw [IsListedProduct, IsListedProduct, h.biller, h.code]

theorem KeepsProduct.trans {a b c : CatalogProduct} (h : KeepsProduct provider listing final a b)
    (h' : KeepsProduct provider listing final b c) : KeepsProduct provider listing final a c where
  id := h'.id.trans h.id
  biller := h'.biller.trans h.biller
  code := h'.code.trans h.code
  others hnone := by
    have hsame := h.others hnone
    rw [← hsame] at hnone
    exact (h'.others hnone).trans hsame
  price := by
    obtain hprice' | hlisted := h'.price
    · exact h.price.imp_left hprice'.trans
    · exact .inr (h.listed.mp hlisted)

theorem Restocked.refl (catalog : Catalog) : Restocked provider listing final catalog catalog :=
  ⟨.refl KeepsCategory.refl _, .refl KeepsBiller.refl _, .refl KeepsProduct.refl _⟩

theorem Restocked.trans {catalog'' : Catalog} (h : Restocked provider listing final catalog catalog')
    (h' : Restocked provider listing final catalog' catalog'') :
    Restocked provider listing final catalog catalog'' where
  categories := h.categories.trans (fun _ _ _ ↦ KeepsCategory.trans)
    (fun _ _ hnew hkeeps ↦ hkeeps.listed.mpr hnew) h'.categories
  billers := h.billers.trans (fun _ _ _ ↦ KeepsBiller.trans)
    (fun _ _ hnew hkeeps ↦ hkeeps.listed.mpr hnew) h'.billers
  products := h.products.trans (fun _ _ _ ↦ KeepsProduct.trans)
    (fun _ _ hnew hkeeps ↦ hkeeps.listed.mpr hnew) h'.products

/-! ## Steps -/

/-- The categories of one catalogue are there in another. -/
def CategoriesLiveOn (catalog final : Catalog) : Prop :=
  ∀ c ∈ catalog.categories.rows, ∃ c' ∈ final.categories.rows,
    c'.id = c.id ∧ c'.provider = c.provider ∧ c'.providerCode = c.providerCode

/-- So are the billers. -/
def BillersLiveOn (catalog final : Catalog) : Prop :=
  ∀ b ∈ catalog.billers.rows, ∃ b' ∈ final.billers.rows,
    b'.id = b.id ∧ b'.categoryId = b.categoryId ∧ b'.providerCode = b.providerCode

theorem Restocked.categoriesLiveOn (h : Restocked provider listing final catalog catalog') :
    CategoriesLiveOn catalog catalog' := by
  intro c hc
  obtain ⟨c', hc', hkeeps⟩ := h.categories.kept c hc
  exact ⟨c', hc', hkeeps.id, hkeeps.owner, hkeeps.code⟩

theorem Restocked.billersLiveOn (h : Restocked provider listing final catalog catalog') :
    BillersLiveOn catalog catalog' := by
  intro b hb
  obtain ⟨b', hb', hkeeps⟩ := h.billers.kept b hb
  exact ⟨b', hb', hkeeps.id, hkeeps.category, hkeeps.code⟩

/-- The category that a sync is at is a listed one in the end. -/
theorem InCategory.exists_listed {c : AtCategory}
    (h : InCategory provider (fun _ ↦ listing) catalog c) (hlives : CategoriesLiveOn catalog final) :
    ∃ row ∈ final.categories.rows, row.id = c.categoryId ∧ IsListedCategory provider listing row ∧
      row.providerCode = c.category.code := by
  obtain ⟨here, hhere, hstamped, hid⟩ := h.here
  obtain ⟨row, hrow, hrowId, hprovider, hcode⟩ := hlives here hhere
  have hrowCode : row.providerCode = c.category.code := hcode.trans hstamped.code
  exact ⟨row, hrow, hrowId.trans hid,
    ⟨hprovider.trans hstamped.provider, c.category, h.mem, hrowCode.symm⟩, hrowCode⟩

/-- So is the biller. -/
theorem InProducts.exists_listed {b : AtBiller} {todo : List Provider.BillerProduct}
    (h : InProducts provider (fun _ ↦ listing) catalog b todo)
    (hlives : CategoriesLiveOn catalog final) (hbillers : BillersLiveOn catalog final) :
    ∃ row ∈ final.billers.rows, row.id = b.billerId ∧ ∃ c ∈ final.categories.rows,
      c.id = row.categoryId ∧ IsListedCategory provider listing c ∧
        b.biller ∈ listing.billers c.providerCode ∧ b.biller.code = row.providerCode := by
  obtain ⟨c, hc, hcid, hlisted, hccode⟩ := h.category.exists_listed hlives
  obtain ⟨here, hhere, hof, hcode, -, hid⟩ := h.here
  obtain ⟨row, hrow, hrowId, hcategory, hrowCode⟩ := hbillers here hhere
  obtain ⟨done, heq, -⟩ := h.before
  refine ⟨row, hrow, hrowId.trans hid, c, hc, hcid.trans (hcategory.trans hof).symm, hlisted, ?_,
    (hrowCode.trans hcode).symm⟩
  rw [hccode, ← h.listed, heq]
  exact List.mem_append_right _ List.mem_cons_self

theorem upsertCategory_restocked {sync : Sync} {position : Nat} {category : Provider.BillCategory}
    {row : CatalogCategory} (hlisted : category ∈ listing.categories)
    (hok : upsertCategory ctx provider sync position category catalog = .ok (row, catalog')) :
    Restocked provider listing final catalog catalog' := by
  simp only [upsertCategory, bind_eq_ok, require_eq_ok, orThrow_eq_ok, exists_const, pure_eq_ok,
    Prod.exists, Prod.mk.injEq] at hok
  obtain ⟨-, _, categories, hupsert, -, rfl⟩ := hok
  refine ⟨Table.revised_upsert hupsert KeepsCategory.refl (fun c _ hc ↦ ?_)
    ⟨rfl, category, hlisted, rfl⟩, .refl KeepsBiller.refl _, .refl KeepsProduct.refl _⟩
  simp only [isCategory, Bool.and_eq_true, decide_eq_true_eq] at hc
  exact ⟨rfl, rfl, rfl, fun hne ↦ absurd hc.1 hne⟩

theorem retireCategories_restocked (codes : List String) :
    Restocked provider listing final catalog (retireCategories provider codes catalog) := by
  refine ⟨.of_rows rfl KeepsCategory.refl fun c _ hc ↦ ?_, .refl KeepsBiller.refl _,
    .refl KeepsProduct.refl _⟩
  simp only [Bool.and_eq_true, decide_eq_true_eq] at hc
  exact ⟨rfl, rfl, rfl, fun hne ↦ absurd hc.1 hne⟩

/-- Billers are written in a listed category only. -/
theorem upsertBiller_restocked {c : AtCategory} {biller : Provider.Biller} {row : CatalogBiller}
    (h : InCategory provider (fun _ ↦ listing) catalog c) (hlives : CategoriesLiveOn catalog final)
    (hlisted : biller ∈ listing.billers c.category.code)
    (hok : upsertBiller ctx c.sync c.categoryId biller catalog = .ok (row, catalog')) :
    Restocked provider listing final catalog catalog' := by
  simp only [upsertBiller, bind_eq_ok, require_eq_ok, orThrow_eq_ok, exists_const, pure_eq_ok,
    Prod.exists, Prod.mk.injEq] at hok
  obtain ⟨-, _, billers, hupsert, -, rfl⟩ := hok
  obtain ⟨category, hcategory, hid, hcategoryListed, hcode⟩ := h.exists_listed hlives
  refine ⟨.refl KeepsCategory.refl _, Table.revised_upsert hupsert KeepsBiller.refl
    (fun b _ hb ↦ ?_) ⟨category, hcategory, hid, hcategoryListed, biller, hcode ▸ hlisted, rfl⟩,
    .refl KeepsProduct.refl _⟩
  simp only [isBiller, Bool.and_eq_true, decide_eq_true_eq] at hb
  exact ⟨rfl, rfl, rfl, fun hnone ↦
    absurd hcategoryListed (hnone category hcategory (hid.trans hb.1.symm))⟩

theorem retireBillers_restocked {c : AtCategory} (h : InCategory provider (fun _ ↦ listing) catalog c)
    (hlives : CategoriesLiveOn catalog final) (codes : List String) :
    Restocked provider listing final catalog (retireBillers c.categoryId codes catalog) := by
  obtain ⟨category, hcategory, hid, hcategoryListed, -⟩ := h.exists_listed hlives
  refine ⟨.refl KeepsCategory.refl _, .of_rows rfl KeepsBiller.refl fun b _ hb ↦ ?_,
    .refl KeepsProduct.refl _⟩
  simp only [Bool.and_eq_true, decide_eq_true_eq] at hb
  exact ⟨rfl, rfl, rfl, fun hnone ↦
    absurd hcategoryListed (hnone category hcategory (hid.trans hb.1.symm))⟩

/-- Packages are written at a listed biller only, and get another price when they are listed only. -/
theorem upsertProduct_restocked {b : AtBiller} {todo : List Provider.BillerProduct}
    {product : Provider.BillerProduct} {row : CatalogProduct}
    (h : InProducts provider (fun _ ↦ listing) catalog b todo)
    (hlives : CategoriesLiveOn catalog final) (hbillers : BillersLiveOn catalog final)
    (hlisted : product ∈ b.biller.products)
    (hok : upsertProduct ctx b.billerId product catalog = .ok (row, catalog')) :
    Restocked provider listing final catalog catalog' := by
  simp only [upsertProduct, bind_eq_ok, require_eq_ok, orThrow_eq_ok, exists_const, pure_eq_ok,
    Prod.exists, Prod.mk.injEq] at hok
  obtain ⟨-, _, products, hupsert, -, rfl⟩ := hok
  obtain ⟨biller, hbiller, hid, c, hc, hcid, hcategory, hmem, hcode⟩ :=
    h.exists_listed hlives hbillers
  refine ⟨.refl KeepsCategory.refl _, .refl KeepsBiller.refl _, Table.revised_upsert hupsert
    KeepsProduct.refl (fun p _ hp ↦ ?_) ⟨biller, hbiller, hid, c, hc, hcid, hcategory, b.biller, hmem,
      hcode, product, hlisted, rfl⟩⟩
  simp only [isProduct, Bool.and_eq_true, decide_eq_true_eq] at hp
  refine ⟨rfl, rfl, rfl, fun hnone ↦ ?_, .inr ?_⟩
  · exact absurd ⟨c, hc, hcid, hcategory, b.biller, hmem, hcode⟩
      (hnone biller hbiller (hid.trans hp.1.symm))
  · exact ⟨biller, hbiller, hid.trans hp.1.symm, c, hc, hcid, hcategory, b.biller, hmem, hcode,
      product, hlisted, hp.2.symm⟩

theorem retireProducts_restocked {b : AtBiller} {todo : List Provider.BillerProduct}
    (h : InProducts provider (fun _ ↦ listing) catalog b todo)
    (hlives : CategoriesLiveOn catalog final) (hbillers : BillersLiveOn catalog final)
    (codes : List String) :
    Restocked provider listing final catalog (retireProducts b.billerId codes catalog) := by
  obtain ⟨biller, hbiller, hid, c, hc, hcid, hcategory, hmem, hcode⟩ :=
    h.exists_listed hlives hbillers
  refine ⟨.refl KeepsCategory.refl _, .refl KeepsBiller.refl _,
    .of_rows rfl KeepsProduct.refl fun p _ hp ↦ ?_⟩
  simp only [Bool.and_eq_true, decide_eq_true_eq] at hp
  refine ⟨rfl, rfl, rfl, fun hnone ↦ ?_, .inl rfl⟩
  exact absurd ⟨c, hc, hcid, hcategory, b.biller, hmem, hcode⟩
    (hnone biller hbiller (hid.trans hp.1.symm))

/-- **One step** of a sync writes only what it may, whatever it leaves in the end. -/
theorem synced_step (h : Progress provider (fun _ ↦ listing) s.catalog t)
    (hlives : CategoriesLiveOn (execCatalog provider (fun _ ↦ listing) ctx s t).1.catalog final)
    (hbillers : BillersLiveOn (execCatalog provider (fun _ ↦ listing) ctx s t).1.catalog final) :
    Restocked provider listing final s.catalog
      (execCatalog provider (fun _ ↦ listing) ctx s t).1.catalog := by
  cases t with
  | category sync position todo =>
      obtain ⟨hgenuine, done, heq, -⟩ := h
      cases todo with
      | nil => exact retireCategories_restocked _
      | cons category todo =>
          have hlisted : category ∈ listing.categories := by
            have hmem : category ∈ sync.categories :=
              heq ▸ List.mem_append_right _ List.mem_cons_self
            exact hgenuine ▸ hmem
          rw [execCatalog] at hlives hbillers ⊢
          rcases stored_cases s (upsertCategory ctx provider sync position category s.catalog)
            fun row ↦ .billers ⟨sync, position, category, row.id, todo⟩ with hfails | ⟨_, _, hok, hstored⟩
          · rw [hfails]
            exact .refl _
          · rw [hstored]
            exact upsertCategory_restocked hlisted hok
  | billers c => exact .refl _
  | biller c billers todo =>
      obtain ⟨hcategory, hbillersListed, done, heq, -⟩ := h
      cases todo with
      | nil => exact retireBillers_restocked hcategory hlives _
      | cons biller todo =>
          have hlisted : biller ∈ listing.billers c.category.code := by
            rw [← hbillersListed, heq]
            exact List.mem_append_right _ List.mem_cons_self
          rw [execCatalog] at hlives hbillers ⊢
          rcases stored_cases s (upsertBiller ctx c.sync c.categoryId biller s.catalog)
            fun row ↦ .product ⟨c, billers, biller, row.id, todo⟩ biller.products with
            hfails | ⟨_, _, hok, hstored⟩
          · rw [hfails]
            exact .refl _
          · rw [hstored] at hlives ⊢
            have hsame := (upsertBiller_eq_ok hok).1
            exact upsertBiller_restocked hcategory (fun c hc ↦ hlives c (hsame ▸ hc)) hlisted hok
  | product b todo =>
      cases todo with
      | nil => exact retireProducts_restocked h hlives hbillers _
      | cons product todo =>
          have hlisted : product ∈ b.biller.products := by
            obtain ⟨done, heq, -⟩ := h.sold
            rw [heq]
            exact List.mem_append_right _ List.mem_cons_self
          rw [execCatalog] at hlives hbillers ⊢
          rcases stored_cases s (upsertProduct ctx b.billerId product s.catalog)
            fun _ ↦ .product b todo with hfails | ⟨_, _, hok, hstored⟩
          · rw [hfails]
            exact .refl _
          · rw [hstored] at hlives hbillers ⊢
            obtain ⟨hsame, hsame', -⟩ := upsertProduct_eq_ok hok
            exact upsertProduct_restocked h (fun c hc ↦ hlives c (hsame ▸ hc))
              (fun b hb ↦ hbillers b (hsame' ▸ hb)) hlisted hok
  | refresh | list | stamp | revise => exact h.elim

/-! ## Whole syncs -/

/-- What a sync was answered is what the provider lists, when that is always the same. -/
theorem isGenuine_of_progress (h : Progress provider (fun _ ↦ listing) s.catalog t) :
    t.isGenuine (fun _ ↦ listing) s = true := by
  cases t with
  | category sync position todo => exact decide_eq_true h.1
  | billers c => exact decide_eq_true rfl
  | biller | product => rfl
  | refresh | list | stamp | revise => exact h.elim

/-- **A sync that runs to its end** leaves a copy, and has written only what it may. -/
theorem complete_restocked (hdistinct : listing.Distinct) {ctxs : List Ctx}
    (h : Progress provider (fun _ ↦ listing) s.catalog t)
    (hcomplete : complete provider (fun _ ↦ listing) ctxs s t = some s') :
    (∃ revision, IsCopy provider (fun _ ↦ listing) revision s'.catalog) ∧
      Restocked provider listing s'.catalog s.catalog s'.catalog := by
  induction ctxs generalizing s t with
  | nil => cases hcomplete
  | cons ctx ctxs ih =>
      have hnext : ∀ t₁, (execCatalog provider (fun _ ↦ listing) ctx s t).2 = some t₁ →
          Progress provider (fun _ ↦ listing) (execCatalog provider (fun _ ↦ listing) ctx s t).1.catalog
            t₁ := fun _ ↦ progress_step (fun _ ↦ hdistinct) h (isGenuine_of_progress h)
      have hstep : CategoriesLiveOn (execCatalog provider (fun _ ↦ listing) ctx s t).1.catalog
            s'.catalog →
          BillersLiveOn (execCatalog provider (fun _ ↦ listing) ctx s t).1.catalog s'.catalog →
            Restocked provider listing s'.catalog s.catalog
              (execCatalog provider (fun _ ↦ listing) ctx s t).1.catalog := synced_step h
      rw [complete] at hcomplete
      rcases hexec : execCatalog provider (fun _ ↦ listing) ctx s t with ⟨s₁, _ | t₁⟩
      · rw [hexec] at hcomplete hstep
        cases hends : t.ends with
        | false =>
            rw [hends] at hcomplete
            cases hcomplete
        | true =>
            rw [hends] at hcomplete
            cases hcomplete
            refine ⟨?_, hstep (fun c hc ↦ ⟨c, hc, rfl, rfl, rfl⟩) fun b hb ↦ ⟨b, hb, rfl, rfl, rfl⟩⟩
            cases t with
            | category sync position todo =>
                cases todo with
                | nil =>
                    obtain rfl : _ = s' := congrArg Prod.fst hexec
                    exact ⟨sync.revision, retireCategories_isCopy h⟩
                | cons => cases hends
            | _ => cases hends
      · rw [hexec] at hcomplete hstep hnext
        obtain ⟨hcopy, hrest⟩ := ih (hnext t₁ rfl) hcomplete
        exact ⟨hcopy, (hstep hrest.categoriesLiveOn hrest.billersLiveOn).trans hrest⟩

/-- `syncBillCatalog` leaves a copy of what is listed, and has written only what it may. -/
theorem syncBillCatalog_restocked (hdistinct : listing.Distinct) {expiresAt refreshedAt : Timestamp}
    {ctxs : List Ctx} (h : syncBillCatalog provider listing expiresAt refreshedAt ctxs s = some s') :
    (∃ revision, IsCopy provider (fun _ ↦ listing) revision s'.catalog) ∧
      Restocked provider listing s'.catalog s.catalog s'.catalog := by
  match ctxs with
  | [] => cases h
  | [_] => cases h
  | _ :: _ :: ctxs =>
      -- The listing and the revision are read, and nothing is stored yet.
      have hcomplete : complete provider (fun _ ↦ listing) ctxs s
          (.category ⟨s.revision, listing.categories, refreshedAt, expiresAt⟩ 0 listing.categories) =
            some s' := h
      have hbegins : Progress provider (fun _ ↦ listing) s.catalog
          (.category ⟨s.revision, listing.categories, refreshedAt, expiresAt⟩ 0 listing.categories) :=
        ⟨rfl, [], rfl, List.forall_mem_nil _⟩
      exact complete_restocked hdistinct hbegins hcomplete

/-! ## Doing it over -/

variable {revision revision' : Option String}

/-- Packages of a biller are told apart by their codes. -/
theorem eq_of_product {a b : CatalogProduct} (ha : a ∈ catalog.products.rows)
    (hb : b ∈ catalog.products.rows) (hbiller : a.billerId = b.billerId)
    (hcode : a.providerCode = b.providerCode) : a = b :=
  catalog.products.eq_of_clash ha hb
    (.inr ⟨rfl, congrArg some (Prod.ext hbiller hcode)⟩)

/-- A status is told by whether it is active. -/
theorem status_eq_of_active_iff {a b : BillCatalogStatus} (h : a = .active ↔ b = .active) : a = b := by
  cases a with
  | active => exact (h.mp rfl).symm
  | inactive =>
      cases b with
      | active => cases h.mpr rfl
      | inactive => rfl

/-- In a copy a listed category holds the billers that are listed. -/
theorem IsCopy.stocked (h : IsCopy provider (fun _ ↦ listing) revision catalog) {c : CatalogCategory}
    (hc : c ∈ catalog.categories.rows) (hlisted : IsListedCategory provider listing c) :
    c.status = .active ∧ Stocked catalog c.id (listing.billers c.providerCode) := by
  obtain ⟨hprovider, x, hx, hcode⟩ := hlisted
  obtain ⟨row, hrow, hstamped, hstocked⟩ := h.kept x hx
  obtain rfl : row = c := eq_of_category hrow hc (hstamped.provider.trans hprovider.symm)
    (hstamped.code.trans hcode)
  rw [hcode] at hstocked
  exact ⟨hstamped.active, hstocked⟩

/-- A provider's category is active in a copy exactly when it is listed. -/
theorem IsCopy.category_active_iff (h : IsCopy provider (fun _ ↦ listing) revision catalog)
    {c : CatalogCategory} (hc : c ∈ catalog.categories.rows) (hprovider : c.provider = provider) :
    c.status = .active ↔ IsListedCategory provider listing c := by
  constructor
  · exact fun hactive ↦ ⟨hprovider, h.only c hc hprovider hactive⟩
  · exact fun hlisted ↦ (h.stocked hc hlisted).1

/-- A listed biller is active and sells what is listed. -/
theorem Stocked.sold {categoryId : Uuid} {billers : List Provider.Biller}
    (h : Stocked catalog categoryId billers) {b : CatalogBiller} (hb : b ∈ catalog.billers.rows)
    (hof : b.categoryId = categoryId) {y : Provider.Biller} (hy : y ∈ billers)
    (hcode : y.code = b.providerCode) :
    b.status = .active ∧ Sold catalog.products b.id y.products := by
  obtain ⟨row, hrow, hcategory, hrowCode, hactive, hsold⟩ := h.has y hy
  obtain rfl : row = b := eq_of_biller hrow hb (hcategory.trans hof.symm) (hrowCode.trans hcode)
  exact ⟨hactive, hsold⟩

theorem Stocked.biller_active_iff {categoryId : Uuid} {billers : List Provider.Biller}
    (h : Stocked catalog categoryId billers) {b : CatalogBiller} (hb : b ∈ catalog.billers.rows)
    (hof : b.categoryId = categoryId) :
    b.status = .active ↔ ∃ y ∈ billers, y.code = b.providerCode := by
  constructor
  · exact h.only b hb hof
  · rintro ⟨y, hy, hcode⟩
    exact (h.sold hb hof hy hcode).1

/-- A listed package is active and has the listed price. -/
theorem Sold.of_listed {billerId : Uuid} {listed : List Provider.BillerProduct}
    (h : Sold catalog.products billerId listed) {p : CatalogProduct} (hp : p ∈ catalog.products.rows)
    (hof : p.billerId = billerId) {z : Provider.BillerProduct} (hz : z ∈ listed)
    (hcode : z.code = p.providerCode) : p.status = .active ∧ p.price = z.price := by
  obtain ⟨row, hrow, hrowOf, hactive, hprice⟩ := (h z.price).mpr ⟨z, hz, rfl⟩
  have hrowCode : row.providerCode = z.code := congrArg (·.code) hprice
  obtain rfl : row = p := eq_of_product hrow hp (hrowOf.trans hof.symm) (hrowCode.trans hcode)
  exact ⟨hactive, hprice⟩

/-- An active package is listed. -/
theorem Sold.exists_listed {billerId : Uuid} {listed : List Provider.BillerProduct}
    (h : Sold catalog.products billerId listed) {p : CatalogProduct} (hp : p ∈ catalog.products.rows)
    (hof : p.billerId = billerId) (hactive : p.status = .active) :
    ∃ z ∈ listed, z.code = p.providerCode := by
  obtain ⟨z, hz, hprice⟩ := (h p.price).mp ⟨p, hp, hof, hactive, rfl⟩
  exact ⟨z, hz, congrArg (·.code) hprice⟩

/-- The rows are the same ones, and none has another status or another price. -/
structure SameOffers (catalog catalog' : Catalog) : Prop where
  categories : Revised (fun c c' ↦ c'.id = c.id ∧ c'.status = c.status) (fun _ ↦ False)
    catalog.categories catalog'.categories
  billers : Revised (fun b b' ↦ b'.id = b.id ∧ b'.status = b.status) (fun _ ↦ False)
    catalog.billers catalog'.billers
  products : Revised (fun p p' ↦ p'.id = p.id ∧ p'.status = p.status ∧ p'.price = p.price)
    (fun _ ↦ False) catalog.products catalog'.products

/-- A listed category is not new to a catalogue that is a copy. -/
theorem IsCopy.categories_closed (hcopy : IsCopy provider (fun _ ↦ listing) revision catalog)
    (hrestocked : Restocked provider listing catalog' catalog catalog') :
    Revised (KeepsCategory provider) (fun _ ↦ False) catalog.categories catalog'.categories := by
  refine hrestocked.categories.closed fun c' hc' hlisted ↦ ?_
  obtain ⟨hprovider, x, hx, hcode⟩ := hlisted
  obtain ⟨c, hc, hstamped, -⟩ := hcopy.kept x hx
  refine ⟨c, hc, fun c'' hc'' hkeeps ↦ eq_of_category hc'' hc' ?_ ?_⟩
  · exact hkeeps.owner.trans (hstamped.provider.trans hprovider.symm)
  · exact hkeeps.code.trans (hstamped.code.trans hcode)

/-- A listed category was one before. -/
theorem IsCopy.exists_category (hcopy : IsCopy provider (fun _ ↦ listing) revision catalog)
    (hrestocked : Restocked provider listing catalog' catalog catalog')
    {c' : CatalogCategory} (hc' : c' ∈ catalog'.categories.rows)
    (hlisted : IsListedCategory provider listing c') :
    ∃ c ∈ catalog.categories.rows, c.id = c'.id ∧ c.providerCode = c'.providerCode ∧
      IsListedCategory provider listing c := by
  obtain ⟨c, hc, hkeeps⟩ | hnever := (hcopy.categories_closed hrestocked).origin c' hc'
  · exact ⟨c, hc, hkeeps.id.symm, hkeeps.code.symm, hkeeps.listed.mp hlisted⟩
  · exact hnever.elim

/-- So it is with billers. -/
theorem IsCopy.billers_closed (hcopy : IsCopy provider (fun _ ↦ listing) revision catalog)
    (hrestocked : Restocked provider listing catalog' catalog catalog') :
    Revised (KeepsBiller provider listing catalog') (fun _ ↦ False) catalog.billers catalog'.billers := by
  refine hrestocked.billers.closed fun b' hb' hlisted ↦ ?_
  obtain ⟨c', hc', hid, hcategory, y, hy, hcode⟩ := hlisted
  obtain ⟨c, hc, hcid, hccode, hclisted⟩ := hcopy.exists_category hrestocked hc' hcategory
  obtain ⟨b, hb, hof, hbcode, -⟩ := (hcopy.stocked hc hclisted).2.has y (hccode ▸ hy)
  refine ⟨b, hb, fun b'' hb'' hkeeps ↦ eq_of_biller hb'' hb' ?_ ?_⟩
  · exact hkeeps.category.trans (hof.trans (hcid.trans hid))
  · exact hkeeps.code.trans (hbcode.trans hcode)

theorem IsCopy.exists_biller (hcopy : IsCopy provider (fun _ ↦ listing) revision catalog)
    (hrestocked : Restocked provider listing catalog' catalog catalog')
    {b' : CatalogBiller} (hb' : b' ∈ catalog'.billers.rows) :
    ∃ b ∈ catalog.billers.rows, b.id = b'.id ∧ b.categoryId = b'.categoryId ∧
      b.providerCode = b'.providerCode := by
  obtain ⟨b, hb, hkeeps⟩ | hnever := (hcopy.billers_closed hrestocked).origin b' hb'
  · exact ⟨b, hb, hkeeps.id.symm, hkeeps.category.symm, hkeeps.code.symm⟩
  · exact hnever.elim

/-- A listed biller sells what is listed, before and after. -/
theorem IsCopy.sold_both (hcopy : IsCopy provider (fun _ ↦ listing) revision catalog)
    (hcopy' : IsCopy provider (fun _ ↦ listing) revision' catalog')
    (hrestocked : Restocked provider listing catalog' catalog catalog')
    {b' : CatalogBiller} (hb' : b' ∈ catalog'.billers.rows) {c' : CatalogCategory}
    (hc' : c' ∈ catalog'.categories.rows) (hid : c'.id = b'.categoryId)
    (hcategory : IsListedCategory provider listing c') {y : Provider.Biller}
    (hy : y ∈ listing.billers c'.providerCode) (hcode : y.code = b'.providerCode) :
    Sold catalog.products b'.id y.products ∧ Sold catalog'.products b'.id y.products := by
  obtain ⟨c, hc, hcid, hccode, hclisted⟩ := hcopy.exists_category hrestocked hc' hcategory
  obtain ⟨b, hb, hbid, hbof, hbcode⟩ := hcopy.exists_biller hrestocked hb'
  have hsold := (hcopy.stocked hc hclisted).2.sold hb (hbof.trans (hcid.trans hid).symm)
    (hccode ▸ hy) (hcode.trans hbcode.symm)
  rw [hbid] at hsold
  exact ⟨hsold.2, ((hcopy'.stocked hc' hcategory).2.sold hb' hid.symm hy hcode).2⟩

theorem IsCopy.products_closed (hcopy : IsCopy provider (fun _ ↦ listing) revision catalog)
    (hcopy' : IsCopy provider (fun _ ↦ listing) revision' catalog')
    (hrestocked : Restocked provider listing catalog' catalog catalog') :
    Revised (KeepsProduct provider listing catalog') (fun _ ↦ False) catalog.products
      catalog'.products := by
  refine hrestocked.products.closed fun p' hp' hlisted ↦ ?_
  obtain ⟨b', hb', hid, c', hc', hcid, hcategory, y, hy, hycode, z, hz, hzcode⟩ := hlisted
  obtain ⟨hsold, -⟩ := hcopy.sold_both hcopy' hrestocked hb' hc' hcid hcategory hy hycode
  obtain ⟨p, hp, hof, -, hprice⟩ := (hsold z.price).mpr ⟨z, hz, rfl⟩
  have hpcode : p.providerCode = z.code := congrArg (·.code) hprice
  refine ⟨p, hp, fun p'' hp'' hkeeps ↦ eq_of_product hp'' hp' ?_ ?_⟩
  · exact hkeeps.biller.trans (hof.trans hid)
  · exact hkeeps.code.trans (hpcode.trans hzcode)

/-- Of a copy, a sync of the same listing changes no status and no price. -/
theorem IsCopy.sameOffers (hcopy : IsCopy provider (fun _ ↦ listing) revision catalog)
    (hcopy' : IsCopy provider (fun _ ↦ listing) revision' catalog')
    (hrestocked : Restocked provider listing catalog' catalog catalog') : SameOffers catalog catalog' where
  categories := by
    refine (hcopy.categories_closed hrestocked).mono fun c hc c' hc' hkeeps ↦ ⟨hkeeps.id, ?_⟩
    by_cases hprovider : c.provider = provider
    · refine status_eq_of_active_iff ?_
      rw [hcopy'.category_active_iff hc' (hkeeps.owner.trans hprovider),
        hcopy.category_active_iff hc hprovider, hkeeps.listed]
    · rw [hkeeps.others hprovider]
  billers := by
    refine (hcopy.billers_closed hrestocked).mono fun b hb b' hb' hkeeps ↦ ⟨hkeeps.id, ?_⟩
    by_cases hlisted : ∃ c' ∈ catalog'.categories.rows, c'.id = b.categoryId ∧
        IsListedCategory provider listing c'
    · obtain ⟨c', hc', hid, hcategory⟩ := hlisted
      obtain ⟨c, hc, hcid, hccode, hclisted⟩ := hcopy.exists_category hrestocked hc' hcategory
      refine status_eq_of_active_iff ?_
      rw [(hcopy'.stocked hc' hcategory).2.biller_active_iff hb' (hkeeps.category.trans hid.symm),
        (hcopy.stocked hc hclisted).2.biller_active_iff hb (hcid.trans hid).symm, hccode, hkeeps.code]
    · rw [hkeeps.others fun c' hc' hid hcategory ↦ hlisted ⟨c', hc', hid, hcategory⟩]
  products := by
    refine (hcopy.products_closed hcopy' hrestocked).mono fun p hp p' hp' hkeeps ↦ ⟨hkeeps.id, ?_⟩
    by_cases hlisted : IsListedProduct provider listing catalog' p
    · obtain ⟨b', hb', hid, c', hc', hcid, hcategory, y, hy, hycode, z, hz, hzcode⟩ := hlisted
      obtain ⟨hsold, hsold'⟩ := hcopy.sold_both hcopy' hrestocked hb' hc' hcid hcategory hy hycode
      obtain ⟨hactive, hprice⟩ := hsold.of_listed hp hid.symm hz hzcode
      obtain ⟨hactive', hprice'⟩ := hsold'.of_listed hp' (hkeeps.biller.trans hid.symm) hz
        (hzcode.trans hkeeps.code.symm)
      exact ⟨hactive'.trans hactive.symm, hprice'.trans hprice.symm⟩
    · refine ⟨?_, hkeeps.price.resolve_right hlisted⟩
      by_cases hbiller : ∃ b' ∈ catalog'.billers.rows, b'.id = p.billerId ∧
          IsListedBiller provider listing catalog' b'
      · -- The package is not listed at its biller, so it is active neither before nor after.
        obtain ⟨b', hb', hid, c', hc', hcid, hcategory, y, hy, hycode⟩ := hbiller
        obtain ⟨hsold, hsold'⟩ := hcopy.sold_both hcopy' hrestocked hb' hc' hcid hcategory hy hycode
        have hnot : ¬ ∃ z ∈ y.products, z.code = p.providerCode := fun hz ↦
          hlisted ⟨b', hb', hid, c', hc', hcid, hcategory, y, hy, hycode, hz⟩
        refine status_eq_of_active_iff ⟨fun hactive ↦ absurd ?_ hnot, fun hactive ↦ absurd ?_ hnot⟩
        · rw [← hkeeps.code]
          exact hsold'.exists_listed hp' (hkeeps.biller.trans hid.symm) hactive
        · exact hsold.exists_listed hp hid.symm hactive
      · rw [hkeeps.others fun b' hb' hid hb ↦ hbiller ⟨b', hb', hid, hb⟩]

/-! ## The claims of a sync -/

/-- Every row is still there, and those of other providers are as they were. -/
structure KeepsRows (provider : String) (catalog catalog' : Catalog) : Prop where
  categories : ∀ c ∈ catalog.categories.rows, ∃ c' ∈ catalog'.categories.rows, c'.id = c.id ∧
    (c.provider ≠ provider → c' = c)
  billers : ∀ b ∈ catalog.billers.rows, ∃ b' ∈ catalog'.billers.rows, b'.id = b.id ∧
    ∀ c ∈ catalog.categories.rows, c.id = b.categoryId → c.provider ≠ provider → b' = b
  products : ∀ p ∈ catalog.products.rows, ∃ p' ∈ catalog'.products.rows, p'.id = p.id ∧
    ∀ b ∈ catalog.billers.rows, b.id = p.billerId →
      ∀ c ∈ catalog.categories.rows, c.id = b.categoryId → c.provider ≠ provider → p' = p

/-- Another provider's category is no listed one afterwards. -/
theorem Restocked.not_listed (h : Restocked provider listing final catalog catalog') {c : CatalogCategory}
    (hc : c ∈ catalog.categories.rows) (hother : c.provider ≠ provider) {c' : CatalogCategory}
    (hc' : c' ∈ catalog'.categories.rows) (hid : c'.id = c.id) :
    ¬ IsListedCategory provider listing c' := by
  obtain ⟨d, hd, hkeeps⟩ := h.categories.kept c hc
  obtain rfl : c' = d := catalog'.categories.eq_of_clash hc' hd (.inl (hid.trans hkeeps.id.symm))
  exact fun hlisted ↦ hother (hkeeps.owner.symm.trans hlisted.1)

theorem Restocked.keepsRows (h : Restocked provider listing catalog' catalog catalog') :
    KeepsRows provider catalog catalog' where
  categories c hc := by
    obtain ⟨c', hc', hkeeps⟩ := h.categories.kept c hc
    exact ⟨c', hc', hkeeps.id, hkeeps.others⟩
  billers b hb := by
    obtain ⟨b', hb', hkeeps⟩ := h.billers.kept b hb
    refine ⟨b', hb', hkeeps.id, fun c hc hid hother ↦ hkeeps.others fun c' hc' hid' ↦ ?_⟩
    exact h.not_listed hc hother hc' (hid'.trans hid.symm)
  products p hp := by
    obtain ⟨p', hp', hkeeps⟩ := h.products.kept p hp
    refine ⟨p', hp', hkeeps.id, fun b hb hid c hc hcid hother ↦ hkeeps.others fun b' hb' hid' ↦ ?_⟩
    obtain ⟨d, hd, hkeepsBiller⟩ := h.billers.kept b hb
    obtain rfl : b' = d := catalog'.billers.eq_of_clash hb' hd
      (.inl (hid'.trans (hid.symm.trans hkeepsBiller.id.symm)))
    rintro ⟨c', hc', hcid', hlisted, -⟩
    exact h.not_listed hc hother hc' (hcid'.trans (hkeepsBiller.category.trans hcid.symm)) hlisted

/-- **A sync mirrors the provider.**  Whatever is stored, and whatever the provider lists with different
codes for the billers of a category and for the packages of a biller: once a sync has run to its end,
with nothing else at work, exactly what is listed can be bought, in the currency and between the limits
that are listed; no row is lost, and other providers' rows are as they were; and whenever it is done
over, no status and no price changes. -/
theorem sync_mirrors (hdistinct : listing.Distinct) {expiresAt refreshedAt : Timestamp}
    {ctxs : List Ctx} (h : syncBillCatalog provider listing expiresAt refreshedAt ctxs s = some s') :
    (∀ category biller price, Sells provider s'.catalog category biller price ↔
      listing.Lists category biller price) ∧
    KeepsRows provider s.catalog s'.catalog ∧
    ∀ s₁ s₂ expiresAt' refreshedAt' ctxs', s₁.catalog = s'.catalog →
      syncBillCatalog provider listing expiresAt' refreshedAt' ctxs' s₁ = some s₂ →
        SameOffers s'.catalog s₂.catalog := by
  obtain ⟨⟨revision, hcopy⟩, hrestocked⟩ := syncBillCatalog_restocked hdistinct h
  refine ⟨fun _ _ _ ↦ hcopy.sells_iff, hrestocked.keepsRows, fun s₁ s₂ _ _ _ hsame hagain ↦ ?_⟩
  obtain ⟨⟨revision', hcopy'⟩, hrestocked'⟩ := syncBillCatalog_restocked hdistinct hagain
  rw [hsame] at hrestocked'
  exact hcopy.sameOffers hcopy' hrestocked'

section Sample

/-- Another provider's category, and a package of this one that was sold at a fixed price. -/
def sampleStored : CatalogStore where
  catalog :=
    ⟨⟨[⟨⟨.ofNat 1, .active⟩, "other", "AIRTIME", "Airtime", none, 0, 0⟩,
        ⟨⟨.ofNat 2, .inactive⟩, "mock", "AIRTIME", "Airtime", none, 0, 0⟩], by decide⟩,
      ⟨[⟨⟨.ofNat 3, .ofNat 2, "MTN", "MTN", .active⟩, ⟨.phone, none⟩, 0, 0⟩], by simp⟩,
      ⟨[⟨⟨.ofNat 4, .ofNat 3, "MTN-TOPUP", "Top-up", .active, none, none, some 10000, "NGN"⟩, none⟩],
        by simp⟩⟩
  revision := none

/-- A context for each step of a sync of the sample. -/
def sampleContexts : List Ctx := (List.range 9).map fun n : Nat ↦ ⟨1000, fun k ↦ .ofNat (100 * (n + 1) + k)⟩

end Sample

/-- The retired category is listed again, and its package sold between limits. -/
theorem sync_mirrors_sample : ∃ s', syncBillCatalog "mock" sampleListing 9000 1000 sampleContexts
      sampleStored = some s' ∧
    Sells "mock" s'.catalog "AIRTIME" "MTN" ⟨⟨"MTN-TOPUP", some 5000, some 5000000, none⟩, "NGN"⟩ ∧
    ¬ Sells "mock" s'.catalog "AIRTIME" "MTN" ⟨⟨"MTN-TOPUP", none, none, some 10000⟩, "NGN"⟩ ∧
    KeepsRows "mock" sampleStored.catalog s'.catalog := by
  have hcompletes : (syncBillCatalog "mock" sampleListing 9000 1000 sampleContexts
      sampleStored).isSome = true := by decide +kernel
  obtain ⟨s', hs'⟩ := Option.isSome_iff_exists.mp hcompletes
  obtain ⟨hsells, hkeeps, -⟩ := sync_mirrors distinct_sampleListing hs'
  refine ⟨s', hs', (hsells _ _ _).mpr (by decide +kernel), ?_, hkeeps⟩
  rw [hsells]
  decide +kernel

end AjoCloud.Bills
