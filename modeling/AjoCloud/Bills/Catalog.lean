import AjoCloud.Common.Json
import AjoCloud.Database.Basic
import AjoCloud.Lib.Threads
import AjoCloud.Lib.Upsert

/-!
# The catalogue of bills

`bill-catalog-sync.ts` and `refreshCatalogIfNeeded`.  A sync copies what the provider lists into three
tables, one row after the other; each call of the database or of the provider is a step of its own,
after which the sync may be lost.
-/

namespace AjoCloud.Bills

open Lib ServiceError

/-! ## What the provider lists -/

namespace Provider

/-- `BillCategory` of the provider. -/
structure BillCategory where
  code : String
  name : String
deriving DecidableEq

/-- `BillReferenceKind`. -/
inductive BillReferenceKind where
  | phone
  | meter
  | smartcard
  | account
deriving DecidableEq

/-- `BillerProduct`. -/
structure BillerProduct where
  code : String
  name : String
  currency : String
  validity : Option String
  minimumMinor : Option Int
  maximumMinor : Option Int
  fixedAmountMinor : Option Int
deriving DecidableEq

/-- `Biller`; its `categoryCode` is not read. -/
structure Biller where
  code : String
  name : String
  referenceKind : BillReferenceKind
  referenceLabel : Option String
  products : List BillerProduct
deriving DecidableEq

end Provider

/-- What `listCategories` and `listBillers` answer. -/
structure Listing where
  categories : List Provider.BillCategory
  billers : String → List Provider.Biller

/-- What a provider lists at each revision, and when it gives none. -/
abbrev Listings := Option String → Listing

/-! ## What is stored -/

/-- `StoredCategoryData`. -/
structure StoredCategoryData where
  position : Nat
  revision : Option String
deriving DecidableEq

/-- A category of billers, with the columns that a sync writes. -/
structure CatalogCategory extends BillCategory where
  provider : String
  providerCode : String
  name : String
  catalogData : Option StoredCategoryData
  refreshedAt : Timestamp
  expiresAt : Timestamp
deriving DecidableEq

instance : Schema CatalogCategory :=
  (Schema.primary fun c ↦ c.id).unique fun c ↦ some (c.provider, c.providerCode)

/-- What is stored of how a biller knows its customers. -/
structure StoredBillerData where
  referenceKind : Provider.BillReferenceKind
  referenceLabel : Option String
deriving DecidableEq

/-- A biller, with the columns that a sync writes. -/
structure CatalogBiller extends BillBiller where
  catalogData : StoredBillerData
  refreshedAt : Timestamp
  expiresAt : Timestamp
deriving DecidableEq

instance : Schema CatalogBiller :=
  (Schema.primary fun b ↦ b.id).unique fun b ↦ some (b.categoryId, b.providerCode)

/-- A package, with how long it lasts. -/
structure CatalogProduct extends BillProduct where
  validity : Option String
deriving DecidableEq

instance : Schema CatalogProduct :=
  (Schema.primary fun p ↦ p.id).unique fun p ↦ some (p.billerId, p.providerCode)

/-- The tables of the catalogue. -/
structure Catalog where
  categories : Table CatalogCategory
  billers : Table CatalogBiller
  products : Table CatalogProduct

/-- The catalogue, and the revision that the provider serves. -/
structure CatalogStore where
  catalog : Catalog
  revision : Option String

/-! ## The writes of a sync -/

/-- What a sync has found out before it writes. -/
structure Sync where
  revision : Option String
  categories : List Provider.BillCategory
  refreshedAt : Timestamp
  expiresAt : Timestamp
deriving DecidableEq

/-- The row that a category has after its upsert. -/
def Sync.writeCategory (sync : Sync) (position : Nat) (category : Provider.BillCategory)
    (row : CatalogCategory) : CatalogCategory :=
  { row with
    name := category.name
    status := .active
    catalogData := some ⟨position, sync.revision⟩
    refreshedAt := sync.refreshedAt
    expiresAt := sync.expiresAt }

/-- A category is looked up by the provider and its code. -/
def isCategory (provider code : String) (row : CatalogCategory) : Bool :=
  row.provider = provider && row.providerCode = code

/-- `billCategory.upsert`. -/
def upsertCategory (ctx : Ctx) (provider : String) (sync : Sync) (position : Nat)
    (category : Provider.BillCategory) (catalog : Catalog) :
    Except ServiceError (CatalogCategory × Catalog) := do
  require (fitsVarChar 64 provider ∧ fitsVarChar 100 category.code ∧ fitsVarChar 160 category.name)
    (.database .valueTooLong)
  let (row, categories) ← orThrow
    (catalog.categories.upsert (isCategory provider category.code)
      { id := ctx.uuid 0
        status := .active
        provider := provider
        providerCode := category.code
        name := category.name
        catalogData := some ⟨position, sync.revision⟩
        refreshedAt := sync.refreshedAt
        expiresAt := sync.expiresAt }
      (sync.writeCategory position category) fun h ↦ h)
    (.database .uniqueConstraint)
  pure (row, { catalog with categories := categories })

/-- The row that a biller has after its upsert. -/
def Sync.writeBiller (sync : Sync) (biller : Provider.Biller) (row : CatalogBiller) : CatalogBiller :=
  { row with
    name := biller.name
    status := .active
    catalogData := ⟨biller.referenceKind, biller.referenceLabel⟩
    refreshedAt := sync.refreshedAt
    expiresAt := sync.expiresAt }

/-- A biller is looked up by its category and its code. -/
def isBiller (categoryId : Uuid) (code : String) (row : CatalogBiller) : Bool :=
  row.categoryId = categoryId && row.providerCode = code

/-- `billBiller.upsert`. -/
def upsertBiller (ctx : Ctx) (sync : Sync) (categoryId : Uuid) (biller : Provider.Biller)
    (catalog : Catalog) : Except ServiceError (CatalogBiller × Catalog) := do
  require (fitsVarChar 100 biller.code ∧ fitsVarChar 160 biller.name) (.database .valueTooLong)
  let (row, billers) ← orThrow
    (catalog.billers.upsert (isBiller categoryId biller.code)
      { id := ctx.uuid 0
        categoryId := categoryId
        providerCode := biller.code
        name := biller.name
        status := .active
        catalogData := ⟨biller.referenceKind, biller.referenceLabel⟩
        refreshedAt := sync.refreshedAt
        expiresAt := sync.expiresAt }
      (sync.writeBiller biller) fun h ↦ h)
    (.database .uniqueConstraint)
  pure (row, { catalog with billers := billers })

/-- The row that a package has after its upsert: a limit that is no longer given is lost. -/
def writeProduct (product : Provider.BillerProduct) (row : CatalogProduct) : CatalogProduct :=
  { row with
    name := product.name
    status := .active
    currency := fillChar 3 product.currency
    minimumMinor := product.minimumMinor
    maximumMinor := product.maximumMinor
    fixedAmountMinor := product.fixedAmountMinor
    validity := product.validity }

/-- A package is looked up by its biller and its code. -/
def isProduct (billerId : Uuid) (code : String) (row : CatalogProduct) : Bool :=
  row.billerId = billerId && row.providerCode = code

/-- The columns of a package hold the values. -/
def productFits (product : Provider.BillerProduct) : Bool :=
  fitsVarChar 100 product.code && fitsVarChar 160 product.name && fitsVarChar 3 product.currency &&
    product.minimumMinor.all fitsBigInt && product.maximumMinor.all fitsBigInt &&
    product.fixedAmountMinor.all fitsBigInt

/-- `billProduct.upsert`. -/
def upsertProduct (ctx : Ctx) (billerId : Uuid) (product : Provider.BillerProduct)
    (catalog : Catalog) : Except ServiceError (CatalogProduct × Catalog) := do
  require (productFits product = true) (.database .valueTooLong)
  let (row, products) ← orThrow
    (catalog.products.upsert (isProduct billerId product.code)
      { id := ctx.uuid 0
        billerId := billerId
        providerCode := product.code
        name := product.name
        status := .active
        minimumMinor := product.minimumMinor
        maximumMinor := product.maximumMinor
        fixedAmountMinor := product.fixedAmountMinor
        currency := fillChar 3 product.currency
        validity := product.validity }
      (writeProduct product) fun h ↦ h)
    (.database .uniqueConstraint)
  pure (row, { catalog with products := products })

/-- The categories of the provider that are not among the codes become inactive. -/
def retireCategories (provider : String) (codes : List String) (catalog : Catalog) : Catalog :=
  { catalog with
    categories := catalog.categories.modify
      (fun c ↦ c.provider = provider && !codes.contains c.providerCode)
      (fun c ↦ { c with status := .inactive }) fun h ↦ h }

/-- The billers of the category that are not among the codes become inactive. -/
def retireBillers (categoryId : Uuid) (codes : List String) (catalog : Catalog) : Catalog :=
  { catalog with
    billers := catalog.billers.modify
      (fun b ↦ b.categoryId = categoryId && !codes.contains b.providerCode)
      (fun b ↦ { b with status := .inactive }) fun h ↦ h }

/-- The packages of the biller that are not among the codes become inactive. -/
def retireProducts (billerId : Uuid) (codes : List String) (catalog : Catalog) : Catalog :=
  { catalog with
    products := catalog.products.modify
      (fun p ↦ p.billerId = billerId && !codes.contains p.providerCode)
      (fun p ↦ { p with status := .inactive }) fun h ↦ h }

/-! ## Steps -/

/-- A sync at one of its categories, which is stored; `todo` are those after it. -/
structure AtCategory where
  sync : Sync
  position : Nat
  category : Provider.BillCategory
  categoryId : Uuid
  todo : List Provider.BillCategory
deriving DecidableEq

/-- A sync at one of the billers of a category, which is stored; `todo` are those after it. -/
structure AtBiller where
  inside : AtCategory
  billers : List Provider.Biller
  biller : Provider.Biller
  billerId : Uuid
  todo : List Provider.Biller
deriving DecidableEq

/-- How far a refresh or a sync has come. -/
inductive CatalogThread where
  /-- `refreshCatalogIfNeeded`. -/
  | refresh
  /-- `syncBillCatalog`, which the seed calls as well: the categories are listed next. -/
  | list (expiresAt refreshedAt : Timestamp)
  /-- They were listed; the revision is read next. -/
  | stamp (expiresAt refreshedAt : Timestamp) (categories : List Provider.BillCategory)
  /-- The next category is to be stored, or the others retired. -/
  | category (sync : Sync) (position : Nat) (todo : List Provider.BillCategory)
  /-- Its billers are to be listed. -/
  | billers (c : AtCategory)
  /-- The next biller is to be stored, or the others retired. -/
  | biller (c : AtCategory) (billers todo : List Provider.Biller)
  /-- The next package is to be stored, or the others retired. -/
  | product (b : AtBiller) (todo : List Provider.BillerProduct)
  /-- The provider comes to serve another catalogue. -/
  | revise (revision : Option String)
deriving DecidableEq

/-- What arrives from outside. -/
def CatalogThread.isRequest : CatalogThread → Bool
  | .refresh | .list .. | .revise _ => true
  | _ => false

/-- The `findFirst` of `refreshCatalogIfNeeded`; a revision that is empty is not asked for. -/
def current (provider : String) (s : CatalogStore) (now : Timestamp) : Option CatalogCategory :=
  s.catalog.categories.find? fun c ↦ c.provider = provider && c.status = .active &&
    now < c.expiresAt && (truthy s.revision).all fun revision ↦
      (c.catalogData.bind (·.revision)) = some revision

/-- A step that writes, or fails and is the last one. -/
def stored {α : Type} (s : CatalogStore) (result : Except ServiceError (α × Catalog))
    (next : α → CatalogThread) : CatalogStore × Option CatalogThread :=
  match result with
  | .ok (a, catalog) => ({ s with catalog := catalog }, some (next a))
  | .error _ => (s, none)

/-- One step. -/
def execCatalog (provider : String) (lists : Listings) (ctx : Ctx) (s : CatalogStore) :
    CatalogThread → CatalogStore × Option CatalogThread
  | .refresh =>
      match current provider s ctx.now with
      | some _ => (s, none)
      | none => (s, some (.list (ctx.now + 6 * 60 * 60000) ctx.now))
  | .list expiresAt refreshedAt =>
      (s, some (.stamp expiresAt refreshedAt (lists s.revision).categories))
  | .stamp expiresAt refreshedAt categories =>
      (s, some (.category ⟨s.revision, categories, refreshedAt, expiresAt⟩ 0 categories))
  | .category sync position (category :: todo) =>
      stored s (upsertCategory ctx provider sync position category s.catalog) fun row ↦
        .billers ⟨sync, position, category, row.id, todo⟩
  | .category sync _ [] =>
      ({ s with catalog := retireCategories provider (sync.categories.map (·.code)) s.catalog }, none)
  | .billers c =>
      let billers := (lists s.revision).billers c.category.code
      (s, some (.biller c billers billers))
  | .biller c billers (biller :: todo) =>
      stored s (upsertBiller ctx c.sync c.categoryId biller s.catalog) fun row ↦
        .product ⟨c, billers, biller, row.id, todo⟩ biller.products
  | .biller c billers [] =>
      ({ s with catalog := retireBillers c.categoryId (billers.map (·.code)) s.catalog },
        some (.category c.sync (c.position + 1) c.todo))
  | .product b (product :: todo) =>
      stored s (upsertProduct ctx b.billerId product s.catalog) fun _ ↦ .product b todo
  | .product b [] =>
      ({ s with catalog := retireProducts b.billerId (b.biller.products.map (·.code)) s.catalog },
        some (.biller b.inside b.billers b.todo))
  | .revise revision => ({ s with revision := revision }, none)

/-! ## What members may buy -/

/-- The code of a package, and between which amounts it is sold. -/
@[ext] structure Terms where
  code : String
  minimumMinor : Option Int
  maximumMinor : Option Int
  fixedAmountMinor : Option Int
deriving DecidableEq

/-- A package of a biller in a category. -/
structure Offer where
  category : String
  biller : String
  terms : Terms
deriving DecidableEq

/-- The terms of a package, as they are listed. -/
def Provider.BillerProduct.terms (p : Provider.BillerProduct) : Terms :=
  ⟨p.code, p.minimumMinor, p.maximumMinor, p.fixedAmountMinor⟩

/-- The terms of a package, as they are stored. -/
def CatalogProduct.terms (p : CatalogProduct) : Terms :=
  ⟨p.providerCode, p.minimumMinor, p.maximumMinor, p.fixedAmountMinor⟩

/-- The terms of a package, and the currency they are in. -/
@[ext] structure Price extends Terms where
  currency : String
deriving DecidableEq

/-- The price of a package, as it is listed; the code of its currency has the three characters of the
column. -/
def Provider.BillerProduct.price (p : Provider.BillerProduct) : Price := ⟨p.terms, fillChar 3 p.currency⟩

/-- The price of a package, as it is stored. -/
def CatalogProduct.price (p : CatalogProduct) : Price := ⟨p.terms, p.currency⟩

/-- What the provider lists. -/
def Listing.offers (listing : Listing) : List Offer :=
  listing.categories.flatMap fun c ↦ (listing.billers c.code).flatMap fun b ↦
    b.products.map fun p ↦ ⟨c.code, b.code, p.terms⟩

/-- What is for sale: the active packages of active billers in active categories of the provider. -/
def purchasable (provider : String) (catalog : Catalog) : List Offer :=
  (catalog.categories.findMany fun c ↦ c.provider = provider && c.status = .active).flatMap fun c ↦
    (catalog.billers.findMany fun b ↦ b.categoryId = c.id && b.status = .active).flatMap fun b ↦
      (catalog.products.findMany fun p ↦ p.billerId = b.id && p.status = .active).map fun p ↦
        ⟨c.providerCode, b.providerCode, p.terms⟩

end AjoCloud.Bills
