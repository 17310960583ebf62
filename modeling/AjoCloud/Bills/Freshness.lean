import AjoCloud.Bills.Catalog

/-!
# Fresh copies

`refreshCatalogIfNeeded` takes the copy for current when one active category bears the provider's
revision and has not expired.  A sync writes the revision first and the billers and packages after it,
so the category says nothing of a sync that was lost, overtaken, or answered from two revisions.
-/

namespace AjoCloud.Bills

open Lib ServiceError

variable {provider : String} {lists : Listings} {ctx : Ctx} {catalog catalog' : Catalog}
  {s s' : CatalogStore} {t t' : CatalogThread}

/-! ## What came of the last sync -/

/-- What came of the syncs until now. -/
inductive Copying where
  /-- Nothing that could be relied on. -/
  | spoiled
  /-- The last one to write is under way, and has come this far. -/
  | underWay (t : CatalogThread)
  /-- The last one to write has run to its end. -/
  | complete (revision : Option String)
deriving DecidableEq

/-- The catalogue, and what came of the last sync. -/
structure Copied where
  store : CatalogStore
  copying : Copying

/-- The step writes one of the tables, when it does not fail. -/
def CatalogThread.writes : CatalogThread → Bool
  | .category .. | .biller .. | .product .. => true
  | _ => false

/-- The step is the first one to write. -/
def CatalogThread.begins : CatalogThread → Bool
  | .category sync 0 todo => todo = sync.categories
  | _ => false

/-- What the sync was answered is what the provider lists at the revision that it writes. -/
def CatalogThread.isGenuine (lists : Listings) (s : CatalogStore) : CatalogThread → Bool
  | .category sync _ _ => sync.categories = (lists sync.revision).categories
  | .billers c =>
      (lists s.revision).billers c.category.code = (lists c.sync.revision).billers c.category.code
  | _ => true

/-- How far a sync has come after a step; not any further when the step failed. -/
def reached (t : CatalogThread) (next : Option CatalogThread) : Option Copying :=
  match t, next with
  | .category sync _ [], _ => some (.complete sync.revision)
  | _, some t' => some (.underWay t')
  | _, none => none

/-- What is known of the last sync after a step: it goes on, or it is disturbed by the writes of another
one. -/
def follow (lists : Listings) (w : Copied) (t : CatalogThread) (next : Option CatalogThread) :
    Copying :=
  if t.writes || w.copying = .underWay t then
    match reached t next with
    | some copying =>
        if (w.copying = .underWay t || t.begins) && t.isGenuine lists w.store then copying
        else .spoiled
    | none => w.copying
  else w.copying

/-- A step, and what is known of the last sync after it. -/
def copyStep (provider : String) (lists : Listings) (ctx : Ctx) (w : Copied) (t : CatalogThread) :
    Copied × Option CatalogThread :=
  (⟨(execCatalog provider lists ctx w.store t).1,
      follow lists w t (execCatalog provider lists ctx w.store t).2⟩,
    (execCatalog provider lists ctx w.store t).2)

/-- The last sync that wrote ran to its end, undisturbed and answered from the one revision that it
wrote; and this is what the provider serves, if it does not say. -/
def Settled (w : Copied) : Prop :=
  ∃ revision, w.copying = .complete revision ∧
    (truthy w.store.revision = none → revision = w.store.revision)

/-! ## What has been copied -/

/-- The active packages of the biller are those that are listed. -/
def Sold (products : Table CatalogProduct) (billerId : Uuid) (listed : List Provider.BillerProduct) :
    Prop :=
  ∀ price : Price, (∃ row ∈ products.rows, row.billerId = billerId ∧ row.status = .active ∧
    row.price = price) ↔ ∃ p ∈ listed, p.price = price

/-- The biller is stored in the category, and sells what is listed. -/
def HasBiller (catalog : Catalog) (categoryId : Uuid) (biller : Provider.Biller) : Prop :=
  ∃ row ∈ catalog.billers.rows, row.categoryId = categoryId ∧ row.providerCode = biller.code ∧
    row.status = .active ∧ Sold catalog.products row.id biller.products

/-- The active billers of the category are those that are listed. -/
structure Stocked (catalog : Catalog) (categoryId : Uuid) (billers : List Provider.Biller) : Prop where
  has : ∀ b ∈ billers, HasBiller catalog categoryId b
  only : ∀ row ∈ catalog.billers.rows, row.categoryId = categoryId → row.status = .active →
    ∃ b ∈ billers, b.code = row.providerCode

/-- The row is the category with the code, and bears the revision. -/
structure Stamped (provider : String) (revision : Option String) (code : String)
    (row : CatalogCategory) : Prop where
  provider : row.provider = provider
  code : row.providerCode = code
  active : row.status = .active
  revision : row.catalogData.bind (·.revision) = revision

/-- The category is stored with what is listed in it. -/
def KeptCategory (provider : String) (lists : Listings) (revision : Option String) (catalog : Catalog)
    (code : String) : Prop :=
  ∃ row ∈ catalog.categories.rows, Stamped provider revision code row ∧
    Stocked catalog row.id ((lists revision).billers code)

/-- The copy is what the provider lists at the revision. -/
structure IsCopy (provider : String) (lists : Listings) (revision : Option String)
    (catalog : Catalog) : Prop where
  kept : ∀ c ∈ (lists revision).categories, KeptCategory provider lists revision catalog c.code
  only : ∀ row ∈ catalog.categories.rows, row.provider = provider → row.status = .active →
    ∃ c ∈ (lists revision).categories, c.code = row.providerCode

/-- A package can be bought at the price: it is active, and so are its biller and its category. -/
def Sells (provider : String) (catalog : Catalog) (category biller : String) (price : Price) : Prop :=
  ∃ c ∈ catalog.categories.rows, (c.provider = provider ∧ c.status = .active ∧
    c.providerCode = category) ∧
    ∃ b ∈ catalog.billers.rows, (b.categoryId = c.id ∧ b.status = .active ∧ b.providerCode = biller) ∧
      ∃ p ∈ catalog.products.rows, p.billerId = b.id ∧ p.status = .active ∧ p.price = price

/-- The package is listed at the price. -/
def Listing.Lists (listing : Listing) (category biller : String) (price : Price) : Prop :=
  ∃ c ∈ listing.categories, c.code = category ∧ ∃ b ∈ listing.billers c.code, b.code = biller ∧
    ∃ p ∈ b.products, p.price = price

instance (provider : String) (catalog : Catalog) (category biller : String) (price : Price) :
    Decidable (Sells provider catalog category biller price) := by
  unfold Sells
  infer_instance

instance (listing : Listing) (category biller : String) (price : Price) :
    Decidable (listing.Lists category biller price) := by
  unfold Listing.Lists
  infer_instance

theorem mem_purchasable {o : Offer} : o ∈ purchasable provider catalog ↔
    ∃ price : Price, Sells provider catalog o.category o.biller price ∧ price.toTerms = o.terms := by
  simp only [purchasable, List.mem_flatMap, List.mem_map, Table.mem_findMany, Bool.and_eq_true,
    decide_eq_true_eq]
  constructor
  · rintro ⟨c, ⟨hc, hprovider, hactive⟩, b, ⟨hb, hof, hbactive⟩, p, ⟨hp, hpof, hpactive⟩, rfl⟩
    exact ⟨p.price, ⟨c, hc, ⟨hprovider, hactive, rfl⟩, b, hb, ⟨hof, hbactive, rfl⟩, p, hp, hpof,
      hpactive, rfl⟩, rfl⟩
  · rintro ⟨_, ⟨c, hc, ⟨hprovider, hactive, hcode⟩, b, hb, ⟨hof, hbactive, hbcode⟩, p, hp, hpof,
      hpactive, rfl⟩, hterms⟩
    refine ⟨c, ⟨hc, hprovider, hactive⟩, b, ⟨hb, hof, hbactive⟩, p, ⟨hp, hpof, hpactive⟩, ?_⟩
    have hterms : p.terms = o.terms := hterms
    rw [hcode, hbcode, hterms]

theorem mem_offers {listing : Listing} {o : Offer} : o ∈ listing.offers ↔
    ∃ price : Price, listing.Lists o.category o.biller price ∧ price.toTerms = o.terms := by
  simp only [Listing.offers, List.mem_flatMap, List.mem_map]
  constructor
  · rintro ⟨c, hc, b, hb, p, hp, rfl⟩
    exact ⟨p.price, ⟨c, hc, rfl, b, hb, rfl, p, hp, rfl⟩, rfl⟩
  · rintro ⟨_, ⟨c, hc, hcode, b, hb, hbcode, p, hp, rfl⟩, hterms⟩
    refine ⟨c, hc, b, hb, p, hp, ?_⟩
    have hterms : p.terms = o.terms := hterms
    rw [hcode, hbcode, hterms]

/-- Categories of a provider are told apart by their codes. -/
theorem eq_of_category {a b : CatalogCategory} (ha : a ∈ catalog.categories.rows)
    (hb : b ∈ catalog.categories.rows) (hprovider : a.provider = b.provider)
    (hcode : a.providerCode = b.providerCode) : a = b :=
  catalog.categories.eq_of_clash ha hb
    (.inr ⟨rfl, congrArg some (Prod.ext hprovider hcode)⟩)

/-- Billers of a category are told apart by their codes. -/
theorem eq_of_biller {a b : CatalogBiller} (ha : a ∈ catalog.billers.rows)
    (hb : b ∈ catalog.billers.rows) (hcategory : a.categoryId = b.categoryId)
    (hcode : a.providerCode = b.providerCode) : a = b :=
  catalog.billers.eq_of_clash ha hb
    (.inr ⟨rfl, congrArg some (Prod.ext hcategory hcode)⟩)

/-- A copy sells what the provider lists, at the prices that are listed. -/
theorem IsCopy.sells_iff {revision : Option String} (h : IsCopy provider lists revision catalog)
    {category biller : String} {price : Price} :
    Sells provider catalog category biller price ↔ (lists revision).Lists category biller price := by
  constructor
  · rintro ⟨c, hc, ⟨hprovider, hactive, rfl⟩, b, hb, ⟨hcategory, hbactive, rfl⟩, p, hp, hbiller,
      hpactive, rfl⟩
    obtain ⟨x, hx, hcode⟩ := h.only c hc hprovider hactive
    obtain ⟨row, hrow, hstamped, hstocked⟩ := h.kept x hx
    obtain rfl : row = c := eq_of_category hrow hc (hstamped.provider.trans hprovider.symm)
      (hstamped.code.trans hcode)
    obtain ⟨y, hy, hycode⟩ := hstocked.only b hb hcategory hbactive
    obtain ⟨row', hrow', hcategory', hcode', -, hsold⟩ := hstocked.has y hy
    obtain rfl : row' = b := eq_of_biller hrow' hb (hcategory'.trans hcategory.symm)
      (hcode'.trans hycode)
    exact ⟨x, hx, hcode, y, hy, hycode, (hsold p.price).mp ⟨p, hp, hbiller, hpactive, rfl⟩⟩
  · rintro ⟨c, hc, rfl, b, hb, rfl, hlisted⟩
    obtain ⟨row, hrow, hstamped, hstocked⟩ := h.kept c hc
    obtain ⟨row', hrow', hcategory, hcode, hactive, hsold⟩ := hstocked.has b hb
    exact ⟨row, hrow, ⟨hstamped.provider, hstamped.active, hstamped.code⟩, row', hrow',
      ⟨hcategory, hactive, hcode⟩, (hsold price).mpr hlisted⟩

theorem IsCopy.mem_purchasable_iff {revision : Option String}
    (h : IsCopy provider lists revision catalog) (o : Offer) :
    o ∈ purchasable provider catalog ↔ o ∈ (lists revision).offers := by
  rw [mem_purchasable, mem_offers]
  exact exists_congr fun _ ↦ and_congr_left' h.sells_iff

/-- The category that a refresh finds bears the revision of the copy. -/
theorem IsCopy.revision_of_current {revision : Option String} {c : CatalogCategory}
    (h : IsCopy provider lists revision s.catalog) {now : Timestamp}
    (hcurrent : current provider s now = some c) (hserved : truthy s.revision ≠ none) :
    revision = s.revision := by
  have hc := Table.mem_of_find? hcurrent
  have hp := Table.prop_of_find? hcurrent
  simp only [Bool.and_eq_true, decide_eq_true_eq] at hp
  obtain ⟨⟨⟨hprovider, hactive⟩, -⟩, hrevision⟩ := hp
  obtain ⟨x, hx, hcode⟩ := h.only c hc hprovider hactive
  obtain ⟨row, hrow, hstamped, -⟩ := h.kept x hx
  obtain rfl : row = c := eq_of_category hrow hc (hstamped.provider.trans hprovider.symm)
    (hstamped.code.trans hcode)
  obtain ⟨r, hr⟩ := Option.ne_none_iff_exists'.mp hserved
  rw [hr, Option.all_some, decide_eq_true_eq] at hrevision
  obtain ⟨hsome, -⟩ := Option.filter_eq_some_iff.mp hr
  rw [← hstamped.revision, hrevision, hsome]

/-! ## How far a copy has come -/

variable {revision : Option String} {code : String} {sync : Sync}

/-- The categories before this one are kept, and this one is stored. -/
structure InCategory (provider : String) (lists : Listings) (catalog : Catalog) (c : AtCategory) :
    Prop where
  genuine : c.sync.categories = (lists c.sync.revision).categories
  before : ∃ done, c.sync.categories = done ++ c.category :: c.todo ∧ ∀ x ∈ done,
    x.code ≠ c.category.code → KeptCategory provider lists c.sync.revision catalog x.code
  here : ∃ row ∈ catalog.categories.rows, Stamped provider c.sync.revision c.category.code row ∧
    row.id = c.categoryId

/-- So are the billers that are not left to do. -/
structure InBillers (provider : String) (lists : Listings) (catalog : Catalog) (c : AtCategory)
    (billers todo : List Provider.Biller) : Prop where
  category : InCategory provider lists catalog c
  listed : billers = (lists c.sync.revision).billers c.category.code
  before : ∃ done, billers = done ++ todo ∧ ∀ x ∈ done, HasBiller catalog c.categoryId x

/-- So are the billers before this one, this one, and its packages that are not left to do. -/
structure InProducts (provider : String) (lists : Listings) (catalog : Catalog) (b : AtBiller)
    (todo : List Provider.BillerProduct) : Prop where
  category : InCategory provider lists catalog b.inside
  listed : b.billers = (lists b.inside.sync.revision).billers b.inside.category.code
  before : ∃ done, b.billers = done ++ b.biller :: b.todo ∧
    ∀ x ∈ done, HasBiller catalog b.inside.categoryId x
  here : ∃ row ∈ catalog.billers.rows, row.categoryId = b.inside.categoryId ∧
    row.providerCode = b.biller.code ∧ row.status = .active ∧ row.id = b.billerId
  sold : ∃ done, b.biller.products = done ++ todo ∧ ∀ x ∈ done, ∃ row ∈ catalog.products.rows,
    row.billerId = b.billerId ∧ row.status = .active ∧ row.price = x.price

/-- How far the copy has come that a sync is making. -/
def Progress (provider : String) (lists : Listings) (catalog : Catalog) : CatalogThread → Prop
  | .category sync _ todo => sync.categories = (lists sync.revision).categories ∧
      ∃ done, sync.categories = done ++ todo ∧
        ∀ x ∈ done, KeptCategory provider lists sync.revision catalog x.code
  | .billers c => InCategory provider lists catalog c
  | .biller c billers todo => InBillers provider lists catalog c billers todo
  | .product b todo => InProducts provider lists catalog b todo
  | _ => False

/-! ## Frames -/

/-- Only billers of one category are written. -/
structure BillersOnly (catalog catalog' : Catalog) (categoryId : Uuid) : Prop where
  categories : catalog'.categories = catalog.categories
  products : catalog'.products = catalog.products
  others : ∀ b : CatalogBiller, b.categoryId ≠ categoryId →
    (b ∈ catalog'.billers.rows ↔ b ∈ catalog.billers.rows)

/-- Only packages of one biller are written. -/
structure ProductsOnly (catalog catalog' : Catalog) (billerId : Uuid) : Prop where
  categories : catalog'.categories = catalog.categories
  billers : catalog'.billers = catalog.billers
  others : ∀ p : CatalogProduct, p.billerId ≠ billerId →
    (p ∈ catalog'.products.rows ↔ p ∈ catalog.products.rows)

theorem HasBiller.frame {categoryId : Uuid} {biller : Provider.Biller}
    (h : HasBiller catalog categoryId biller)
    (hbillers : ∀ row ∈ catalog.billers.rows, row.categoryId = categoryId →
      row.providerCode = biller.code → row ∈ catalog'.billers.rows)
    (hproducts : ∀ row ∈ catalog.billers.rows, row.categoryId = categoryId →
      row.providerCode = biller.code → ∀ p : CatalogProduct, p.billerId = row.id →
        (p ∈ catalog'.products.rows ↔ p ∈ catalog.products.rows)) :
    HasBiller catalog' categoryId biller := by
  obtain ⟨row, hrow, hcategory, hcode, hactive, hsold⟩ := h
  refine ⟨row, hbillers row hrow hcategory hcode, hcategory, hcode, hactive, fun price ↦ ?_⟩
  rw [← hsold price]
  constructor
  · rintro ⟨p, hp, hof, hp'⟩
    exact ⟨p, (hproducts row hrow hcategory hcode p hof).mp hp, hof, hp'⟩
  · rintro ⟨p, hp, hof, hp'⟩
    exact ⟨p, (hproducts row hrow hcategory hcode p hof).mpr hp, hof, hp'⟩

/-- A category stays kept when neither it nor what is in it is written. -/
theorem KeptCategory.frame (h : KeptCategory provider lists revision catalog code)
    (hcategories : ∀ row ∈ catalog.categories.rows, row.providerCode = code →
      row ∈ catalog'.categories.rows)
    (hbillers : ∀ row ∈ catalog.categories.rows, row.providerCode = code →
      ∀ b : CatalogBiller, b.categoryId = row.id →
        (b ∈ catalog'.billers.rows ↔ b ∈ catalog.billers.rows))
    (hproducts : ∀ row ∈ catalog.categories.rows, row.providerCode = code →
      ∀ b ∈ catalog.billers.rows, b.categoryId = row.id → ∀ p : CatalogProduct, p.billerId = b.id →
        (p ∈ catalog'.products.rows ↔ p ∈ catalog.products.rows)) :
    KeptCategory provider lists revision catalog' code := by
  obtain ⟨row, hrow, hstamped, hstocked⟩ := h
  refine ⟨row, hcategories row hrow hstamped.code, hstamped, ⟨fun x hx ↦ ?_, fun b hb hof hactive ↦ ?_⟩⟩
  · refine (hstocked.has x hx).frame (fun b hb hof _ ↦ ?_) fun b hb hof _ ↦ ?_
    · exact (hbillers row hrow hstamped.code b hof).mpr hb
    · exact hproducts row hrow hstamped.code b hb hof
  · exact hstocked.only b ((hbillers row hrow hstamped.code b hof).mp hb) hof hactive

/-- A category with another code is another row. -/
theorem InCategory.ne_categoryId {c : AtCategory} (h : InCategory provider lists catalog c)
    {row : CatalogCategory} (hrow : row ∈ catalog.categories.rows)
    (hcode : row.providerCode ≠ c.category.code) : row.id ≠ c.categoryId := by
  obtain ⟨here, hhere, hstamped, hid⟩ := h.here
  intro heq
  obtain rfl : row = here := catalog.categories.eq_of_clash hrow hhere (.inl (heq.trans hid.symm))
  exact hcode hstamped.code

/-- Writing billers of this category leaves the others kept. -/
theorem InCategory.billersOnly {c : AtCategory} (h : InCategory provider lists catalog c)
    (hwrite : BillersOnly catalog catalog' c.categoryId) : InCategory provider lists catalog' c where
  genuine := h.genuine
  before := by
    obtain ⟨done, heq, hdone⟩ := h.before
    refine ⟨done, heq, fun x hx hne ↦ (hdone x hx hne).frame ?_ ?_ ?_⟩
    · exact fun row hrow _ ↦ hwrite.categories ▸ hrow
    · intro row hrow hcode b hof
      refine hwrite.others b fun hid ↦ h.ne_categoryId hrow (hcode ▸ hne) (hof.symm.trans hid)
    · exact fun _ _ _ _ _ _ _ _ ↦ by rw [hwrite.products]
  here := by
    rw [hwrite.categories]
    exact h.here

/-- Writing packages of a biller of this category leaves the other categories kept. -/
theorem InCategory.productsOnly {c : AtCategory} {biller : CatalogBiller}
    (h : InCategory provider lists catalog c) (hbiller : biller ∈ catalog.billers.rows)
    (hof : biller.categoryId = c.categoryId) (hwrite : ProductsOnly catalog catalog' biller.id) :
    InCategory provider lists catalog' c where
  genuine := h.genuine
  before := by
    obtain ⟨done, heq, hdone⟩ := h.before
    refine ⟨done, heq, fun x hx hne ↦ (hdone x hx hne).frame ?_ ?_ ?_⟩
    · exact fun row hrow _ ↦ hwrite.categories ▸ hrow
    · exact fun _ _ _ _ _ ↦ by rw [hwrite.billers]
    · intro row hrow hcode b hb hbof p hp
      refine hwrite.others p fun hid ↦ h.ne_categoryId hrow (hcode ▸ hne) ?_
      obtain rfl : b = biller := catalog.billers.eq_of_clash hb hbiller (.inl (hp.symm.trans hid))
      exact hbof.symm.trans hof
  here := by
    rw [hwrite.categories]
    exact h.here

/-! ## The writes -/

/-- No category lists two billers with one code, and no biller two packages. -/
structure Listing.Distinct (listing : Listing) : Prop where
  billers : ∀ c ∈ listing.categories, ((listing.billers c.code).map (·.code)).Nodup
  products : ∀ c ∈ listing.categories, ∀ b ∈ listing.billers c.code,
    (b.products.map (·.code)).Nodup

/-- What comes before something in a list without duplicates has other codes. -/
theorem ne_of_before {α κ : Type} {key : α → κ} {before after : List α} {a : α}
    (h : ((before ++ a :: after).map key).Nodup) : ∀ x ∈ before, key x ≠ key a := by
  rw [List.map_append, List.map_cons, List.nodup_append] at h
  exact fun x hx ↦ h.2.2 _ (List.mem_map_of_mem hx) _ List.mem_cons_self

theorem InCategory.mem {c : AtCategory} (h : InCategory provider lists catalog c) :
    c.category ∈ (lists c.sync.revision).categories := by
  obtain ⟨done, heq, -⟩ := h.before
  rw [← h.genuine, heq]
  exact List.mem_append_right _ List.mem_cons_self

/-- What `billCategory.upsert` leaves in the table. -/
theorem upsertCategory_eq_ok {category : Provider.BillCategory} {position : Nat}
    {row : CatalogCategory}
    (hok : upsertCategory ctx provider sync position category catalog = .ok (row, catalog')) :
    catalog'.billers = catalog.billers ∧ catalog'.products = catalog.products ∧
      Stamped provider sync.revision category.code row ∧
      ∀ x, x ∈ catalog'.categories.rows ↔
        x = row ∨ (x ∈ catalog.categories.rows ∧ isCategory provider category.code x = false) := by
  simp only [upsertCategory, bind_eq_ok, require_eq_ok, orThrow_eq_ok, exists_const, pure_eq_ok,
    Prod.exists, Prod.mk.injEq] at hok
  obtain ⟨-, _, categories, hupsert, rfl, rfl⟩ := hok
  have hupserted := Table.upserted hupsert ?_ ?_ ?_
  · have hpicked := hupserted.picked
    simp only [isCategory, Bool.and_eq_true, decide_eq_true_eq] at hpicked
    refine ⟨rfl, rfl, ?_, hupserted.mem_iff⟩
    rcases hupserted.origin with rfl | ⟨y, -, rfl, -⟩
    · exact ⟨rfl, rfl, rfl, rfl⟩
    · exact ⟨hpicked.1, hpicked.2, rfl, rfl⟩
  · intro x y hx hy
    simp only [isCategory, Bool.and_eq_true, decide_eq_true_eq] at hx hy
    exact .inr ⟨rfl, congrArg some (Prod.ext (hx.1.trans hy.1.symm) (hx.2.trans hy.2.symm))⟩
  · simp [isCategory]
  · exact fun _ h ↦ h

/-- What `billBiller.upsert` leaves in the table. -/
theorem upsertBiller_eq_ok {categoryId : Uuid} {biller : Provider.Biller} {row : CatalogBiller}
    (hok : upsertBiller ctx sync categoryId biller catalog = .ok (row, catalog')) :
    catalog'.categories = catalog.categories ∧ catalog'.products = catalog.products ∧
      (row.categoryId = categoryId ∧ row.providerCode = biller.code ∧ row.status = .active) ∧
      ∀ x, x ∈ catalog'.billers.rows ↔
        x = row ∨ (x ∈ catalog.billers.rows ∧ isBiller categoryId biller.code x = false) := by
  simp only [upsertBiller, bind_eq_ok, require_eq_ok, orThrow_eq_ok, exists_const, pure_eq_ok,
    Prod.exists, Prod.mk.injEq] at hok
  obtain ⟨-, _, table, hupsert, rfl, rfl⟩ := hok
  have hupserted := Table.upserted hupsert ?_ ?_ ?_
  · have hpicked := hupserted.picked
    simp only [isBiller, Bool.and_eq_true, decide_eq_true_eq] at hpicked
    refine ⟨rfl, rfl, ⟨hpicked.1, hpicked.2, ?_⟩, hupserted.mem_iff⟩
    rcases hupserted.origin with rfl | ⟨y, -, rfl, -⟩
    · rfl
    · rfl
  · intro x y hx hy
    simp only [isBiller, Bool.and_eq_true, decide_eq_true_eq] at hx hy
    exact .inr ⟨rfl, congrArg some (Prod.ext (hx.1.trans hy.1.symm) (hx.2.trans hy.2.symm))⟩
  · simp [isBiller]
  · exact fun _ h ↦ h

/-- What `billProduct.upsert` leaves in the table: the price is the one that is listed. -/
theorem upsertProduct_eq_ok {billerId : Uuid} {product : Provider.BillerProduct}
    {row : CatalogProduct} (hok : upsertProduct ctx billerId product catalog = .ok (row, catalog')) :
    catalog'.categories = catalog.categories ∧ catalog'.billers = catalog.billers ∧
      (row.billerId = billerId ∧ row.status = .active ∧ row.price = product.price) ∧
      ∀ x, x ∈ catalog'.products.rows ↔
        x = row ∨ (x ∈ catalog.products.rows ∧ isProduct billerId product.code x = false) := by
  simp only [upsertProduct, bind_eq_ok, require_eq_ok, orThrow_eq_ok, exists_const, pure_eq_ok,
    Prod.exists, Prod.mk.injEq] at hok
  obtain ⟨-, _, table, hupsert, rfl, rfl⟩ := hok
  have hupserted := Table.upserted hupsert ?_ ?_ ?_
  · have hpicked := hupserted.picked
    simp only [isProduct, Bool.and_eq_true, decide_eq_true_eq] at hpicked
    refine ⟨rfl, rfl, ⟨hpicked.1, ?_⟩, hupserted.mem_iff⟩
    rcases hupserted.origin with rfl | ⟨y, -, rfl, -⟩
    · exact ⟨rfl, rfl⟩
    · exact ⟨rfl, Price.ext hpicked.2 rfl rfl rfl rfl⟩
  · intro x y hx hy
    simp only [isProduct, Bool.and_eq_true, decide_eq_true_eq] at hx hy
    exact .inr ⟨rfl, congrArg some (Prod.ext (hx.1.trans hy.1.symm) (hx.2.trans hy.2.symm))⟩
  · simp [isProduct]
  · exact fun _ h ↦ h

/-- What is left of the categories when those that are not listed are retired. -/
theorem mem_retireCategories {codes : List String} {row : CatalogCategory} :
    row ∈ (retireCategories provider codes catalog).categories.rows ↔
      (row ∈ catalog.categories.rows ∧ (row.provider = provider → row.providerCode ∈ codes)) ∨
        ∃ y ∈ catalog.categories.rows, (y.provider = provider ∧ y.providerCode ∉ codes) ∧
          row = { y with status := .inactive } := by
  rw [retireCategories, Table.mem_modify]
  simp

/-- What is left of the billers. -/
theorem mem_retireBillers {categoryId : Uuid} {codes : List String} {row : CatalogBiller} :
    row ∈ (retireBillers categoryId codes catalog).billers.rows ↔
      (row ∈ catalog.billers.rows ∧ (row.categoryId = categoryId → row.providerCode ∈ codes)) ∨
        ∃ y ∈ catalog.billers.rows, (y.categoryId = categoryId ∧ y.providerCode ∉ codes) ∧
          row = { y with status := .inactive } := by
  rw [retireBillers, Table.mem_modify]
  simp

/-- What is left of the packages. -/
theorem mem_retireProducts {billerId : Uuid} {codes : List String} {row : CatalogProduct} :
    row ∈ (retireProducts billerId codes catalog).products.rows ↔
      (row ∈ catalog.products.rows ∧ (row.billerId = billerId → row.providerCode ∈ codes)) ∨
        ∃ y ∈ catalog.products.rows, (y.billerId = billerId ∧ y.providerCode ∉ codes) ∧
          row = { y with status := .inactive } := by
  rw [retireProducts, Table.mem_modify]
  simp

/-! ## What a write does to the copy -/

/-- A category is stored. -/
theorem upsertCategory_progress {category : Provider.BillCategory} {position : Nat}
    {todo : List Provider.BillCategory} {row : CatalogCategory}
    (h : Progress provider lists catalog (.category sync position (category :: todo)))
    (hok : upsertCategory ctx provider sync position category catalog = .ok (row, catalog')) :
    InCategory provider lists catalog' ⟨sync, position, category, row.id, todo⟩ := by
  obtain ⟨hbillers, hproducts, hstamped, hmem⟩ := upsertCategory_eq_ok hok
  obtain ⟨hgenuine, done, heq, hdone⟩ := h
  refine ⟨hgenuine, ⟨done, heq, fun x hx hne ↦ (hdone x hx).frame ?_ ?_ ?_⟩,
    ⟨row, (hmem row).mpr (.inl rfl), hstamped, rfl⟩⟩
  · intro y hy hcode
    exact (hmem y).mpr (.inr ⟨hy, by simp [isCategory, hcode, hne]⟩)
  · exact fun _ _ _ _ _ ↦ by rw [hbillers]
  · exact fun _ _ _ _ _ _ _ _ ↦ by rw [hproducts]

/-- A biller is stored. -/
theorem upsertBiller_progress {c : AtCategory} {biller : Provider.Biller}
    {billers todo : List Provider.Biller} {row : CatalogBiller}
    (h : InBillers provider lists catalog c billers (biller :: todo))
    (hdistinct : (lists c.sync.revision).Distinct)
    (hok : upsertBiller ctx c.sync c.categoryId biller catalog = .ok (row, catalog')) :
    InProducts provider lists catalog' ⟨c, billers, biller, row.id, todo⟩ biller.products := by
  obtain ⟨hcategories, hproducts, ⟨hof, hcode, hactive⟩, hmem⟩ := upsertBiller_eq_ok hok
  have hwrite : BillersOnly catalog catalog' c.categoryId := by
    refine ⟨hcategories, hproducts, fun b hb ↦ ?_⟩
    rw [hmem]
    constructor
    · rintro (rfl | ⟨hold, -⟩)
      · exact absurd hof hb
      · exact hold
    · exact fun hold ↦ .inr ⟨hold, by simp [isBiller, hb]⟩
  obtain ⟨done, heq, hdone⟩ := h.before
  have hnodup := hdistinct.billers _ h.category.mem
  rw [← h.listed, heq] at hnodup
  refine ⟨h.category.billersOnly hwrite, h.listed, ⟨done, heq, fun x hx ↦ (hdone x hx).frame ?_ ?_⟩,
    ⟨row, (hmem row).mpr (.inl rfl), hof, hcode, hactive, rfl⟩, ⟨[], rfl, List.forall_mem_nil _⟩⟩
  · intro y hy _ hycode
    exact (hmem y).mpr (.inr ⟨hy, by simp [isBiller, hycode, ne_of_before hnodup x hx]⟩)
  · exact fun _ _ _ _ _ _ ↦ by rw [hproducts]

/-- Writing packages of this biller leaves the billers before it. -/
theorem InProducts.before_of_productsOnly {b : AtBiller} {todo : List Provider.BillerProduct}
    (h : InProducts provider lists catalog b todo)
    (hdistinct : (lists b.inside.sync.revision).Distinct)
    (hwrite : ProductsOnly catalog catalog' b.billerId) :
    ∃ done, b.billers = done ++ b.biller :: b.todo ∧
      ∀ x ∈ done, HasBiller catalog' b.inside.categoryId x := by
  obtain ⟨done, heq, hdone⟩ := h.before
  have hnodup := hdistinct.billers _ h.category.mem
  rw [← h.listed, heq] at hnodup
  obtain ⟨here, hhere, -, hcode, -, hid⟩ := h.here
  refine ⟨done, heq, fun x hx ↦ (hdone x hx).frame ?_ ?_⟩
  · exact fun row hrow _ _ ↦ hwrite.billers ▸ hrow
  · intro row hrow _ hrowcode p hp
    refine hwrite.others p fun hpid ↦ ne_of_before hnodup x hx ?_
    have heq : row = here := catalog.billers.eq_of_clash hrow hhere
      (.inl (hp.symm.trans (hpid.trans hid.symm)))
    rw [← hrowcode, ← hcode, heq]

/-- Writing packages of this biller leaves the other categories. -/
theorem InProducts.category_of_productsOnly {b : AtBiller} {todo : List Provider.BillerProduct}
    (h : InProducts provider lists catalog b todo)
    (hwrite : ProductsOnly catalog catalog' b.billerId) :
    InCategory provider lists catalog' b.inside := by
  obtain ⟨here, hhere, hof, -, -, hid⟩ := h.here
  exact h.category.productsOnly hhere hof (hid ▸ hwrite)

/-- The packages of the biller have different codes. -/
theorem InProducts.nodup {b : AtBiller} {todo : List Provider.BillerProduct}
    (h : InProducts provider lists catalog b todo)
    (hdistinct : (lists b.inside.sync.revision).Distinct) :
    (b.biller.products.map (·.code)).Nodup := by
  obtain ⟨done, heq, -⟩ := h.before
  refine hdistinct.products _ h.category.mem b.biller ?_
  rw [← h.listed, heq]
  exact List.mem_append_right _ List.mem_cons_self

/-- A package is stored. -/
theorem upsertProduct_progress {b : AtBiller} {product : Provider.BillerProduct}
    {todo : List Provider.BillerProduct} {row : CatalogProduct}
    (h : InProducts provider lists catalog b (product :: todo))
    (hdistinct : (lists b.inside.sync.revision).Distinct)
    (hok : upsertProduct ctx b.billerId product catalog = .ok (row, catalog')) :
    InProducts provider lists catalog' b todo := by
  obtain ⟨hcategories, hbillers, hrow, hmem⟩ := upsertProduct_eq_ok hok
  have hwrite : ProductsOnly catalog catalog' b.billerId := by
    refine ⟨hcategories, hbillers, fun p hp ↦ ?_⟩
    rw [hmem]
    constructor
    · rintro (rfl | ⟨hold, -⟩)
      · exact absurd hrow.1 hp
      · exact hold
    · exact fun hold ↦ .inr ⟨hold, by simp [isProduct, hp]⟩
  refine ⟨h.category_of_productsOnly hwrite, h.listed, h.before_of_productsOnly hdistinct hwrite,
    hbillers ▸ h.here, ?_⟩
  obtain ⟨done, heq, hdone⟩ := h.sold
  have hnodup := h.nodup hdistinct
  rw [heq] at hnodup
  refine ⟨done ++ [product], by rw [heq, List.append_assoc]; rfl, ?_⟩
  refine List.forall_mem_append.mpr ⟨fun x hx ↦ ?_,
    List.forall_mem_singleton.mpr ⟨row, (hmem row).mpr (.inl rfl), hrow⟩⟩
  obtain ⟨y, hy, hof, hactive, hprice⟩ := hdone x hx
  refine ⟨y, (hmem y).mpr (.inr ⟨hy, ?_⟩), hof, hactive, hprice⟩
  have hcode : y.providerCode = x.code := congrArg (·.code) hprice
  simp [isProduct, hcode, ne_of_before hnodup x hx]

/-- The packages that are not listed are retired, and the biller is done. -/
theorem retireProducts_progress {b : AtBiller} (h : InProducts provider lists catalog b [])
    (hdistinct : (lists b.inside.sync.revision).Distinct) :
    InBillers provider lists
      (retireProducts b.billerId (b.biller.products.map (·.code)) catalog) b.inside b.billers b.todo := by
  have hwrite : ProductsOnly catalog
      (retireProducts b.billerId (b.biller.products.map (·.code)) catalog) b.billerId := by
    refine ⟨rfl, rfl, fun p hp ↦ ?_⟩
    rw [mem_retireProducts]
    constructor
    · rintro (⟨hold, -⟩ | ⟨y, -, ⟨hof, -⟩, rfl⟩)
      · exact hold
      · exact absurd hof hp
    · exact fun hold ↦ .inl ⟨hold, fun hof ↦ absurd hof hp⟩
  refine ⟨h.category_of_productsOnly hwrite, h.listed, ?_⟩
  obtain ⟨done, heq, hdone⟩ := h.before_of_productsOnly hdistinct hwrite
  refine ⟨done ++ [b.biller], by rw [heq, List.append_assoc]; rfl, ?_⟩
  refine List.forall_mem_append.mpr ⟨hdone, List.forall_mem_singleton.mpr ?_⟩
  obtain ⟨here, hhere, hof, hcode, hactive, hid⟩ := h.here
  refine ⟨here, hhere, hof, hcode, hactive, ?_⟩
  rw [hid]
  obtain ⟨products, hproducts, hsold⟩ := h.sold
  rw [List.append_nil] at hproducts
  rw [← hproducts] at hsold
  intro price
  constructor
  · rintro ⟨p, hp, hpof, hpactive, rfl⟩
    obtain ⟨hold, hlisted⟩ | ⟨y, -, -, rfl⟩ := mem_retireProducts.mp hp
    · -- The package is listed, and no other row has its code.
      obtain ⟨x, hx, hxcode⟩ := List.mem_map.mp (hlisted hpof)
      obtain ⟨y, hy, hyof, -, hprice⟩ := hsold x hx
      have hycode : y.providerCode = x.code := congrArg (·.code) hprice
      obtain rfl : y = p := catalog.products.eq_of_clash hy hold
        (.inr ⟨rfl, congrArg some (Prod.ext (hyof.trans hpof.symm) (hycode.trans hxcode))⟩)
      exact ⟨x, hx, hprice.symm⟩
    · cases hpactive
  · rintro ⟨x, hx, rfl⟩
    obtain ⟨y, hy, hyof, hyactive, hprice⟩ := hsold x hx
    have hycode : y.providerCode = x.code := congrArg (·.code) hprice
    have hlisted : y.providerCode ∈ b.biller.products.map (·.code) :=
      hycode ▸ List.mem_map_of_mem hx
    exact ⟨y, mem_retireProducts.mpr (.inl ⟨hy, fun _ ↦ hlisted⟩), hyof, hyactive, hprice⟩

/-- The billers that are not listed are retired, and the category is done. -/
theorem retireBillers_progress {c : AtCategory} {billers : List Provider.Biller} (position : Nat)
    (h : InBillers provider lists catalog c billers []) :
    Progress provider lists (retireBillers c.categoryId (billers.map (·.code)) catalog)
      (.category c.sync position c.todo) := by
  have hwrite : BillersOnly catalog
      (retireBillers c.categoryId (billers.map (·.code)) catalog) c.categoryId := by
    refine ⟨rfl, rfl, fun b hb ↦ ?_⟩
    rw [mem_retireBillers]
    constructor
    · rintro (⟨hold, -⟩ | ⟨y, -, ⟨hof, -⟩, rfl⟩)
      · exact hold
      · exact absurd hof hb
    · exact fun hold ↦ .inl ⟨hold, fun hof ↦ absurd hof hb⟩
  have hcategory := h.category.billersOnly hwrite
  obtain ⟨done, heq, hdone⟩ := h.before
  rw [List.append_nil] at heq
  rw [← heq] at hdone
  have hkept : KeptCategory provider lists c.sync.revision
      (retireBillers c.categoryId (billers.map (·.code)) catalog) c.category.code := by
    obtain ⟨here, hhere, hstamped, hid⟩ := hcategory.here
    refine ⟨here, hhere, hstamped, ?_⟩
    rw [hid, ← h.listed]
    refine ⟨fun b hb ↦ (hdone b hb).frame (fun y hy _ hcode ↦ ?_) fun _ _ _ _ _ _ ↦ Iff.rfl,
      fun row hrow hof hactive ↦ ?_⟩
    · exact mem_retireBillers.mpr (.inl ⟨hy, fun _ ↦ hcode ▸ List.mem_map_of_mem hb⟩)
    · obtain ⟨-, hlisted⟩ | ⟨y, -, -, rfl⟩ := mem_retireBillers.mp hrow
      · exact List.mem_map.mp (hlisted hof)
      · cases hactive
  obtain ⟨before, hbefore, hkeptBefore⟩ := hcategory.before
  refine ⟨hcategory.genuine, before ++ [c.category], by rw [hbefore, List.append_assoc]; rfl, ?_⟩
  refine List.forall_mem_append.mpr ⟨fun x hx ↦ ?_, List.forall_mem_singleton.mpr hkept⟩
  by_cases hcode : x.code = c.category.code
  · rw [hcode]
    exact hkept
  · exact hkeptBefore x hx hcode

/-- The categories that are not listed are retired, and the copy is done. -/
theorem retireCategories_isCopy {position : Nat}
    (h : Progress provider lists catalog (.category sync position [])) :
    IsCopy provider lists sync.revision
      (retireCategories provider (sync.categories.map (·.code)) catalog) := by
  obtain ⟨hgenuine, done, heq, hdone⟩ := h
  rw [List.append_nil] at heq
  rw [← heq, hgenuine] at hdone
  rw [hgenuine]
  refine ⟨fun x hx ↦ ?_, fun row hrow hprovider hactive ↦ ?_⟩
  · obtain ⟨row, hrow, hstamped, hstocked⟩ := hdone x hx
    have hlisted : row.providerCode ∈ (lists sync.revision).categories.map (·.code) :=
      hstamped.code ▸ List.mem_map_of_mem hx
    exact ⟨row, mem_retireCategories.mpr (.inl ⟨hrow, fun _ ↦ hlisted⟩), hstamped,
      ⟨hstocked.has, hstocked.only⟩⟩
  · obtain ⟨-, hlisted⟩ | ⟨y, -, -, rfl⟩ := mem_retireCategories.mp hrow
    · exact List.mem_map.mp (hlisted hprovider)
    · cases hactive

/-! ## Steps and runs -/

/-- What is known of the last sync is true of the tables. -/
def Reliable (provider : String) (lists : Listings) (catalog : Catalog) : Copying → Prop
  | .spoiled => True
  | .underWay t => Progress provider lists catalog t
  | .complete revision => IsCopy provider lists revision catalog

/-- The provider lists no code twice, whatever its revision. -/
def AllDistinct (lists : Listings) : Prop := ∀ revision, (lists revision).Distinct

/-- A sync that begins has done nothing yet. -/
theorem progress_of_begins (hbegins : t.begins = true) (hgenuine : t.isGenuine lists s = true) :
    Progress provider lists catalog t := by
  cases t with
  | category sync position todo =>
      cases position with
      | zero =>
          have hgenuine : sync.categories = (lists sync.revision).categories :=
            of_decide_eq_true hgenuine
          have htodo : todo = sync.categories := of_decide_eq_true hbegins
          exact ⟨hgenuine, [], htodo.symm, List.forall_mem_nil _⟩
      | succ => cases hbegins
  | _ => cases hbegins

/-- A step that does not write leaves the tables. -/
theorem catalog_of_not_writes (h : t.writes = false) :
    (execCatalog provider lists ctx s t).1.catalog = s.catalog := by
  cases t with
  | category | biller | product => cases h
  | refresh =>
      rw [execCatalog]
      split
      · rfl
      · rfl
  | list | stamp | billers | revise => rfl

/-- A step that stores a row stores it, or leaves everything as it was. -/
theorem stored_cases {α : Type} (s : CatalogStore) (result : Except ServiceError (α × Catalog))
    (next : α → CatalogThread) :
    (stored s result next = (s, none)) ∨ ∃ a catalog, result = .ok (a, catalog) ∧
      stored s result next = ({ s with catalog := catalog }, some (next a)) := by
  cases result with
  | ok answer => exact .inr ⟨answer.1, answer.2, rfl, rfl⟩
  | error e => exact .inl rfl

/-- Where a sync goes on, its copy has come one step further. -/
theorem progress_step (hlists : AllDistinct lists) (h : Progress provider lists s.catalog t)
    (hgenuine : t.isGenuine lists s = true)
    (hnext : (execCatalog provider lists ctx s t).2 = some t') :
    Progress provider lists (execCatalog provider lists ctx s t).1.catalog t' := by
  cases t with
  | category sync position todo =>
      cases todo with
      | nil => cases hnext
      | cons category todo =>
          rw [execCatalog] at hnext ⊢
          rcases stored_cases s (upsertCategory ctx provider sync position category s.catalog)
            fun row ↦ .billers ⟨sync, position, category, row.id, todo⟩ with heq | ⟨row, _, hok, heq⟩
          · rw [heq] at hnext
            cases hnext
          · rw [heq] at hnext ⊢
            cases hnext
            exact upsertCategory_progress h hok
  | billers c =>
      cases hnext
      have hlisted : (lists s.revision).billers c.category.code = _ := of_decide_eq_true hgenuine
      exact ⟨h, hlisted, [], rfl, List.forall_mem_nil _⟩
  | biller c billers todo =>
      cases todo with
      | nil =>
          cases hnext
          exact retireBillers_progress _ h
      | cons biller todo =>
          rw [execCatalog] at hnext ⊢
          rcases stored_cases s (upsertBiller ctx c.sync c.categoryId biller s.catalog)
            fun row ↦ .product ⟨c, billers, biller, row.id, todo⟩ biller.products with
            heq | ⟨row, _, hok, heq⟩
          · rw [heq] at hnext
            cases hnext
          · rw [heq] at hnext ⊢
            cases hnext
            exact upsertBiller_progress h (hlists _) hok
  | product b todo =>
      cases todo with
      | nil =>
          cases hnext
          exact retireProducts_progress h (hlists _)
      | cons product todo =>
          rw [execCatalog] at hnext ⊢
          rcases stored_cases s (upsertProduct ctx b.billerId product s.catalog)
            fun _ ↦ .product b todo with heq | ⟨row, _, hok, heq⟩
          · rw [heq] at hnext
            cases hnext
          · rw [heq] at hnext ⊢
            cases hnext
            exact upsertProduct_progress h (hlists _) hok
  | refresh | list | stamp | revise => exact h.elim

/-- However far a sync that is relied on has come, the copy is as far. -/
theorem reliable_of_reached {copying : Copying} (hlists : AllDistinct lists)
    (h : Progress provider lists s.catalog t) (hgenuine : t.isGenuine lists s = true)
    (hreached : reached t (execCatalog provider lists ctx s t).2 = some copying) :
    Reliable provider lists (execCatalog provider lists ctx s t).1.catalog copying := by
  unfold reached at hreached
  split at hreached
  · cases hreached
    exact retireCategories_isCopy h
  · next hnext =>
      cases hreached
      exact progress_step hlists h hgenuine hnext
  · cases hreached

theorem next_eq_none_of_reached {next : Option CatalogThread} (h : reached t next = none) :
    next = none := by
  unfold reached at h
  split at h
  · cases h
  · cases h
  · rfl

/-- A sync that fails to store a row has written nothing. -/
theorem catalog_of_reached_eq_none (h : reached t (execCatalog provider lists ctx s t).2 = none) :
    (execCatalog provider lists ctx s t).1.catalog = s.catalog := by
  have hnext := next_eq_none_of_reached h
  cases t with
  | category sync position todo =>
      cases todo with
      | nil => cases h
      | cons category todo =>
          rw [execCatalog] at hnext ⊢
          rcases stored_cases s (upsertCategory ctx provider sync position category s.catalog)
            fun row ↦ .billers ⟨sync, position, category, row.id, todo⟩ with heq | ⟨_, _, -, heq⟩
          · rw [heq]
          · rw [heq] at hnext
            cases hnext
  | biller c billers todo =>
      cases todo with
      | nil => cases hnext
      | cons biller todo =>
          rw [execCatalog] at hnext ⊢
          rcases stored_cases s (upsertBiller ctx c.sync c.categoryId biller s.catalog)
            fun row ↦ .product ⟨c, billers, biller, row.id, todo⟩ biller.products with
            heq | ⟨_, _, -, heq⟩
          · rw [heq]
          · rw [heq] at hnext
            cases hnext
  | product b todo =>
      cases todo with
      | nil => cases hnext
      | cons product todo =>
          rw [execCatalog] at hnext ⊢
          rcases stored_cases s (upsertProduct ctx b.billerId product s.catalog)
            fun _ ↦ .product b todo with heq | ⟨_, _, -, heq⟩
          · rw [heq]
          · rw [heq] at hnext
            cases hnext
  | refresh | list | stamp | billers | revise => exact catalog_of_not_writes rfl

/-- **One step**: what is known of the last sync stays true. -/
theorem reliable_step (hlists : AllDistinct lists) {w : Copied}
    (h : Reliable provider lists w.store.catalog w.copying) :
    Reliable provider lists (copyStep provider lists ctx w t).1.store.catalog
      (copyStep provider lists ctx w t).1.copying := by
  show Reliable provider lists (execCatalog provider lists ctx w.store t).1.catalog
    (follow lists w t (execCatalog provider lists ctx w.store t).2)
  unfold follow
  split
  · split
    · next copying hreached =>
        split
        · next hgoes =>
            obtain ⟨hgoes, hgenuine⟩ := Bool.and_eq_true_iff.mp hgoes
            refine reliable_of_reached hlists ?_ hgenuine hreached
            rcases Bool.or_eq_true_iff.mp hgoes with hlast | hbegins
            · rw [of_decide_eq_true hlast] at h
              exact h
            · exact progress_of_begins hbegins hgenuine
        · trivial
    · next hfailed =>
        rw [catalog_of_reached_eq_none hfailed]
        exact h
  · next hreads =>
      have hreads := (Bool.or_eq_false_iff.mp (Bool.eq_false_iff.mpr hreads)).1
      rw [catalog_of_not_writes hreads]
      exact h

/-- **Freshness.**  However refreshes and syncs interleave, whichever of them are lost, and whenever the
provider changes its revision: a refresh that finds the copy to be current, once the last sync that
wrote has run to its end undisturbed, finds what the provider lists. -/
theorem current_copy {start q : Pool Copied CatalogThread} (hlists : AllDistinct lists)
    (hstart : start.shared.copying = .spoiled)
    (hrun : Reaches (Pool.advance (copyStep provider lists))
      (Pool.Admitted (fun _ t ↦ t.isRequest = true) fun _ _ _ ↦ True) start q)
    {now : Timestamp} (hcurrent : (current provider q.shared.store now).isSome = true)
    (hsettled : Settled q.shared) (offer : Offer) :
    offer ∈ purchasable provider q.shared.store.catalog ↔
      offer ∈ (lists q.shared.store.revision).offers := by
  have hreliable : Reliable provider lists q.shared.store.catalog q.shared.copying := by
    refine Pool.invariant_of_steps
      (S := fun w : Copied ↦ Reliable provider lists w.store.catalog w.copying) hrun ?_
      fun ctx w t hw _ ↦ reliable_step hlists hw
    rw [hstart]
    trivial
  obtain ⟨revision, hcomplete, hunsaid⟩ := hsettled
  rw [hcomplete] at hreliable
  have hcopy : IsCopy provider lists revision q.shared.store.catalog := hreliable
  obtain ⟨c, hc⟩ := Option.isSome_iff_exists.mp hcurrent
  by_cases hserved : truthy q.shared.store.revision = none
  · rw [← hunsaid hserved]
    exact hcopy.mem_purchasable_iff offer
  · rw [← hcopy.revision_of_current hc hserved]
    exact hcopy.mem_purchasable_iff offer

/-! ### A sync that is lost -/

section Sample

/-- One category, with one biller that sells one package. -/
def sampleListing : Listing where
  categories := [⟨"AIRTIME", "Airtime"⟩]
  billers _ := [⟨"MTN", "MTN", .phone, none,
    [⟨"MTN-TOPUP", "Top-up", "NGN", none, some 5000, some 5000000, none⟩]⟩]

/-- The same at every revision. -/
def sampleLists : Listings := fun _ ↦ sampleListing

theorem distinct_sampleListing : sampleListing.Distinct := ⟨by decide, by decide⟩

/-- Nothing is stored, and the provider serves its first revision. -/
def sampleUncopied : Pool Copied CatalogThread :=
  ⟨⟨⟨⟨.empty, .empty, .empty⟩, some "r1"⟩, .spoiled⟩, []⟩

/-- A refresh, which finds nothing and takes some steps of a sync. -/
def sampleRefresh (steps : Nat) : List (Move CatalogThread Ctx) :=
  .spawn .refresh :: (List.range steps).map fun n : Nat ↦
    .run 0 ⟨1000 * n, fun k ↦ .ofNat (100 * n + k)⟩

/-- The catalogue after that, whatever is left of the sync being lost. -/
def sampleCopied (steps : Nat) : Pool Copied CatalogThread :=
  (sampleRefresh steps ++ [Move.stop 0]).foldl (Pool.advance (copyStep "mock" sampleLists)) sampleUncopied

end Sample

theorem current_copy_sample :
    purchasable "mock" (sampleCopied 10).shared.store.catalog ≠ [] ∧
    ∀ offer, offer ∈ purchasable "mock" (sampleCopied 10).shared.store.catalog ↔
      offer ∈ (sampleLists (sampleCopied 10).shared.store.revision).offers := by
  have hsome : purchasable "mock" (sampleCopied 10).shared.store.catalog ≠ [] := by decide +kernel
  have hrun : Reaches (Pool.advance (copyStep "mock" sampleLists))
      (Pool.Admitted (fun _ t ↦ t.isRequest = true) fun _ _ _ ↦ True) sampleUncopied
      (sampleCopied 10) := reaches_of_allAdmitted (by decide +kernel)
  have hcurrent : (current "mock" (sampleCopied 10).shared.store 20000).isSome = true := by
    decide +kernel
  have hcomplete : (sampleCopied 10).shared.copying = .complete (some "r1") := by decide +kernel
  have hserved : (sampleCopied 10).shared.store.revision = some "r1" := by decide +kernel
  generalize sampleCopied 10 = q at hsome hrun hcurrent hcomplete hserved ⊢
  exact ⟨hsome, current_copy (fun _ ↦ distinct_sampleListing) rfl hrun hcurrent
    ⟨some "r1", hcomplete, fun _ ↦ hserved.symm⟩⟩

/-- A sync is lost once it has stored its first category, and the next refresh finds the copy current,
with nothing in it for sale. -/
theorem lost_sync_current :
    Reaches (Pool.advance (copyStep "mock" sampleLists))
      (Pool.Admitted (fun _ t ↦ t.isRequest = true) fun _ _ _ ↦ True) sampleUncopied
      (sampleCopied 4) ∧
    AllDistinct sampleLists ∧
    (current "mock" (sampleCopied 4).shared.store 20000).isSome = true ∧
    purchasable "mock" (sampleCopied 4).shared.store.catalog = [] ∧
    (⟨"AIRTIME", "MTN", ⟨"MTN-TOPUP", some 5000, some 5000000, none⟩⟩ : Offer) ∈
      (sampleLists (sampleCopied 4).shared.store.revision).offers := by
  refine ⟨reaches_of_allAdmitted ?_, fun _ ↦ distinct_sampleListing, ?_, ?_, ?_⟩
  · decide +kernel
  · decide +kernel
  · decide +kernel
  · decide +kernel

end AjoCloud.Bills
