import CrossPilot.Inventory.Service

/-!
# Batches of listings

A batch publishes SKUs in shops, or changes the prices of listings. It is only written down when it
is accepted (`acceptPublish`, `acceptPrices`): a pair that is linked already is skipped, and the
price of a pair that is not goes into its open listing. The task that runs a batch afterwards takes
the lines one after the other, each in a transaction of its own (`_run`). A line to publish is sent
with the price that the listing has by then; a line that changes a price is sent if the listing is
linked, and else changes the listing alone.

Publishing waits for the texts and the compliance of the listing. The two checks are parameters here,
as are the answers of the platforms.
-/

namespace CrossPilot

open Transaction Table

/-! ### Accepting -/

def maxBatchItems : ℕ := 500

/-- `unique_ids` keeps the first of equal ids. -/
def uniqueIds (values : List ℕ) : List ℕ := values.eraseDups

def listingBatchTooLarge : ServiceError := .app 40007 "单批最多 500 条"

def expandPairs (skuIds shopIds : List ℕ) : Except ServiceError (List (ℕ × ℕ)) :=
  let pairs := (uniqueIds skuIds).flatMap fun skuId => (uniqueIds shopIds).map fun shopId =>
    (skuId, shopId)
  if maxBatchItems < pairs.length then .error listingBatchTooLarge else .ok pairs

/-- A price that was empty or zero, or that moves by more than a fifth, must be confirmed. -/
def needsPriceConfirm (old : Option ℚ) (new : ℚ) : Bool :=
  match old with
  | none => true
  | some old => old = 0 || 1 / 5 < |new - old| / old

/-- `apply_counts`. -/
def applyCounts (batch : ListingBatch) (items : List ListingBatchItem) (running : Bool) :
    ListingBatch :=
  let succeeded := items.countP (·.status = .succeeded)
  let failed := items.countP (·.status = .failed)
  let skipped := items.countP (·.status = .skipped)
  let status : BatchStatus :=
    if items.any (·.status = .pending) then if running then .running else .pending
    else if failed ≠ 0 ∧ (succeeded ≠ 0 ∨ skipped ≠ 0) then .partly
    else if failed ≠ 0 then .failed
    else .succeeded
  { batch with status, succeeded, failed, skipped }

/-- The row with the highest id. -/
def newestListing (d : Db) (p : Listing → Bool) : Option Listing :=
  ((d.listings.filter fun l => !l.deleted && p l).insertionSort fun a b => b.id ≤ a.id).head?

def linkedPair (skuId shopId : ℕ) : Work (Option Listing) :=
  .select fun d => newestListing d fun l =>
    l.skuId = skuId && l.shopId = shopId && l.status = .linked

def openPair (skuId shopId : ℕ) : Work (Option Listing) :=
  .select fun d => newestListing d fun l =>
    l.skuId = skuId && l.shopId = shopId && l.status ≠ .linked

def getShop (shopId : ℕ) : Work Shop := do
  orRaise .notFound (← .select fun d => d.shops.find? fun s => s.id = shopId)

def addBatchItem (item : ListingBatchItem) : Work ListingBatchItem := do
  .insert fun d => { d with batchItems := d.batchItems ++ [item] }
  return item

def addBatch (kind : BatchKind) (count : ℕ) : Work ListingBatch := do
  let id ← nextSnowflakeId
  let batch : ListingBatch := { id, kind, status := .pending, total := count }
  .insert fun d => { d with batches := d.batches ++ [batch] }
  return batch

def saveBatch (batch : ListingBatch) : Work Unit :=
  .update (fun _ => [.batch batch.id])
    (fun _ d => { d with batches := alter ListingBatch.id batch.id (fun _ => batch) d.batches })
    fun _ _ => ()

/-- A request to publish. -/
structure PublishBatchCreate where
  skuIds : List ℕ
  shopIds : List ℕ
  price : ℚ
  currency : String

/-- The open listing of a pair with its new price, or a new one. -/
def openListing (payload : PublishBatchCreate) (skuId shopId : ℕ) : Option Listing → Work ℕ
  | none => do
    let id ← nextSnowflakeId
    let row : Listing := {
      id, skuId, shopId, platformSkuId := none, status := .draft
      price := some payload.price, currency := some payload.currency }
    .insert fun d => { d with listings := d.listings ++ [row] }
    return id
  | some row => do
    let change (l : Listing) :=
      { l with price := some payload.price, currency := some payload.currency }
    .update (fun _ => [.listing row.id])
      (fun _ d => { d with listings := alter Listing.id row.id change d.listings })
      fun _ _ => ()
    return row.id

/-- `_stage_publish`. -/
def stagePublish (batch : ListingBatch) (payload : PublishBatchCreate) (skuId shopId : ℕ) :
    Work ListingBatchItem := do
  match ← linkedPair skuId shopId with
  | some linked =>
    let id ← nextSnowflakeId
    addBatchItem {
      id, batchId := batch.id, skuId, shopId, listingId := some linked.id, status := .skipped
      priceBefore := linked.price, currencyBefore := linked.currency
      priceAfter := none, currencyAfter := none }
  | none =>
    let current ← openPair skuId shopId
    let listingId ← openListing payload skuId shopId current
    let id ← nextSnowflakeId
    addBatchItem {
      id, batchId := batch.id, skuId, shopId, listingId := some listingId, status := .pending
      priceBefore := current.bind (·.price), currencyBefore := current.bind (·.currency)
      priceAfter := some payload.price, currencyAfter := some payload.currency }

/-- The lines of a batch, one after the other. -/
def stageAll {β : Type} (stage : β → Work ListingBatchItem) : List β → Work (List ListingBatchItem)
  | [] => return []
  | x :: rest => do
    let item ← stage x
    return item :: (← stageAll stage rest)

def acceptPublish (payload : PublishBatchCreate) : Work Unit := do
  match expandPairs payload.skuIds payload.shopIds with
  | .error e => raise e
  | .ok pairs =>
    .forEach (uniqueIds payload.skuIds) fun skuId => do let _ ← getSku skuId
    .forEach (uniqueIds payload.shopIds) fun shopId => do let _ ← getShop shopId
    let batch ← addBatch .publish pairs.length
    let rows ← stageAll (fun pair => stagePublish batch payload pair.1 pair.2) pairs
    saveBatch (applyCounts batch rows false)

/-- A request to change prices. -/
structure PriceBatchCreate where
  listingIds : List ℕ
  price : ℚ
  currency : String
  confirmed : Bool := false

/-- `_load_listings`. -/
def loadListings (listingIds : List ℕ) : Work (List Listing) := do
  let ids := uniqueIds listingIds
  if maxBatchItems < ids.length then raise listingBatchTooLarge
  else
    let found ← .select fun d => ids.filterMap fun id =>
      d.listings.find? fun l => l.id = id ∧ l.deleted = false
    if found.length ≠ ids.length then raise .notFound else return found

/-- `_price_item`. -/
def priceItem (batch : ListingBatch) (payload : PriceBatchCreate) (listing : Listing) :
    Work ListingBatchItem := do
  let id ← nextSnowflakeId
  addBatchItem {
    id, batchId := batch.id, skuId := listing.skuId, shopId := listing.shopId
    listingId := some listing.id, status := .pending
    priceBefore := listing.price, currencyBefore := listing.currency
    priceAfter := some payload.price, currencyAfter := some payload.currency }

def acceptPrices (payload : PriceBatchCreate) : Work Unit := do
  let listings ← loadListings payload.listingIds
  if listings.any (needsPriceConfirm ·.price payload.price) && !payload.confirmed then
    raise (.app 40008 "改价幅度超过 20%，需要再次确认")
  else
    let batch ← addBatch .price listings.length
    let rows ← stageAll (priceItem batch payload) listings
    saveBatch (applyCounts batch rows false)

/-! ### Running -/

/-- What a platform is told of a listing. -/
inductive CatalogMessage
  | publish (shopId : ℕ) (title : String) (skuId : ℕ) (price : ℚ) (currency : String)
  | updatePrice (shopId : ℕ) (platformSkuId : String) (price : ℚ) (currency : String)
  deriving DecidableEq

/-- The ids a platform gives to what it has published. -/
structure PublishResult where
  platformProductId : String
  platformSkuId : String
  deriving DecidableEq

/-- What a worker finds for a line: the listing, what to tell the platform if anything, and the
remark of the compliance check. -/
structure Errand where
  listing : Listing
  message : Option CatalogMessage
  note : Option String
  deriving DecidableEq

/-- `get_or_404` and its like, outside of a transaction's program. -/
def orError {α : Type} (e : ServiceError) : Option α → Except ServiceError α
  | some a => .ok a
  | none => .error e

def findListing (d : Db) (listingId : ℕ) : Except ServiceError Listing :=
  orError .notFound (d.listings.find? fun l => l.id = listingId ∧ l.deleted = false)

def findShop (d : Db) (shopId : ℕ) : Except ServiceError Shop :=
  orError .notFound (d.shops.find? fun s => s.id = shopId)

/-- The price of a listing, if it has one. -/
def Listing.selling (listing : Listing) : Option (ℚ × String) :=
  match listing.price, listing.currency with
  | some price, some currency => some (price, currency)
  | _, _ => none

/-- `_publish_item` up to the call. The gate answers with the title and the remark. -/
def publishErrand (d : Db) (item : ListingBatchItem)
    (gate : Except ServiceError (String × Option String)) : Except ServiceError Errand := do
  let listingId ← orError (.paramInvalid "缺少 Listing") item.listingId
  let listing ← findListing d listingId
  let sku ← orError .notFound (d.skus.find? fun s => s.id = item.skuId ∧ s.deleted = false)
  let shop ← findShop d item.shopId
  let selling ← orError (.paramInvalid "刊登需要售价和币种") listing.selling
  let content ← gate
  return ⟨listing, some (.publish shop.id content.1 sku.id selling.1 selling.2), content.2⟩

/-- What the platform calls a linked listing. -/
def Listing.linkedAs (listing : Listing) : Option String :=
  if listing.status = .linked then listing.platformSkuId.filter (· ≠ "") else none

/-- `_reprice_item` up to the call. A listing that is not linked has nobody to tell. -/
def repriceErrand (d : Db) (item : ListingBatchItem) : Except ServiceError Errand := do
  match item.listingId, item.priceAfter, item.currencyAfter with
  | some listingId, some price, some currency =>
    let listing ← findListing d listingId
    match listing.linkedAs with
    | none => return ⟨listing, none, none⟩
    | some platformSkuId =>
      let shop ← findShop d item.shopId
      return ⟨listing, some (.updatePrice shop.id platformSkuId price currency), none⟩
  | _, _, _ => .error (.paramInvalid "售价和币种需要同时填写")

def errandFor (kind : BatchKind) (d : Db) (item : ListingBatchItem)
    (gate : Except ServiceError (String × Option String)) : Except ServiceError Errand :=
  match kind with
  | .publish => publishErrand d item gate
  | .price => repriceErrand d item

/-- `_error_text`. -/
def errorText (e : ServiceError) : String :=
  let (text, name) := match e with
    | .app _ message => (message, "AppError")
    | .adapter message => (message, "AdapterError")
    | .integrity constraint => (constraint, "IntegrityError")
    | .value message => (message, "ValueError")
  let cleaned := Text.strip text
  Text.truncate 512 (if cleaned = "" then name else cleaned)

/-- The listing as the worker leaves it. -/
def listingAfter (kind : BatchKind) (item : ListingBatchItem) (result : PublishResult)
    (listing : Listing) : Listing :=
  match kind with
  | .publish => { listing with
      platformProductId := some result.platformProductId
      platformSkuId := some result.platformSkuId
      status := .linked }
  | .price => { listing with price := item.priceAfter, currency := item.currencyAfter }

end CrossPilot
