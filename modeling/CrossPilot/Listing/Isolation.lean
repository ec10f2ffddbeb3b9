import CrossPilot.Listing.BatchRuns

/-!
# One run of a batch

A run of `_run` works off the lines of its batch until none is pending. Whatever befalls the lines,
each of them is settled in the end, and the batch counts them. The lines do not disturb each other,
except in one way: the platform may give a line the SKU id that another listing of the same shop
has, and then the line is refused. Whether the other listing has the id may depend on what has
befallen its own line. Lines without such a clash come out the same, whatever befalls the others
(`runBatch_isolated`).
-/

namespace CrossPilot

open Table

/-- What befalls a line: the checks before it is published, the answer of the platform, and what
may go wrong when the outcome is written. -/
structure Fate where
  gate : Except ServiceError (String × Option String)
  answer : Except ServiceError PublishResult
  fault : Option ServiceError := none

namespace BatchWorld

/-- The loop of `_run`. -/
def work (r : ℕ) (fate : ℕ → Fate) : ℕ → BatchWorld → BatchWorld
  | 0, w => w
  | n + 1, w =>
    match w.runners r with
    | none => w
    | some runner =>
      match runner.pending with
      | none => w.finish r
      | some item =>
        let fate' := fate item.id
        ((w.send r fate'.gate fate'.answer).settle r fate'.fault).work r fate n

/-- `_run`. -/
def runBatch (r : ℕ) (fate : ℕ → Fate) (n : ℕ) (w : BatchWorld) (batch : ListingBatch) :
    BatchWorld :=
  (w.start r batch.kind batch.id).work r fate n

end BatchWorld

/-- A batch that is finished counts its lines. -/
structure Counted (d : Db) (batch : ListingBatch) : Prop where
  batches : Keyed ListingBatch.id d.batches
  items : Keyed ListingBatchItem.id d.batchItems
  mem : batch ∈ d.batches
  counts : batch.status ∈ [BatchStatus.succeeded, .partly, .failed] →
    applyCounts batch (itemsFor d batch.id) false = batch

/-- All lines are settled, and the batch counts them. -/
structure LinesSettled (batch : ListingBatch) (items : List ListingBatchItem) : Prop where
  final : ∀ i ∈ items, i.status ≠ .pending
  succeeded : batch.succeeded = items.countP (·.status = .succeeded)
  failed : batch.failed = items.countP (·.status = .failed)
  skipped : batch.skipped = items.countP (·.status = .skipped)
  sum : batch.succeeded + batch.failed + batch.skipped = items.length
  all : batch.status = .succeeded ↔ batch.failed = 0
  some : batch.status = .partly ↔ batch.failed ≠ 0 ∧ batch.succeeded + batch.skipped ≠ 0
  none : batch.status = .failed ↔ batch.failed ≠ 0 ∧ batch.succeeded + batch.skipped = 0

/-- No other line of the batch has to do with the SKU id that the platform gives to this one. -/
def Apart (d : Db) (batch : ListingBatch) (fate : ℕ → Fate) (i : ListingBatchItem) : Prop :=
  batch.kind = .publish → ∀ result, (fate i.id).answer = .ok result →
    ∀ m ∈ d.listings, i.listingId = some m.id →
      ∀ j ∈ itemsFor d batch.id, j.status = .pending →
        ∀ l ∈ d.listings, j.listingId = some l.id → l.id ≠ m.id → l.shopId = m.shopId →
          l.platformSkuId ≠ some result.platformSkuId ∧
            ∀ result', (fate j.id).answer = .ok result' →
              result'.platformSkuId ≠ result.platformSkuId

/-! ### One line -/

/-- What a line comes to: the errand and the answer, or the error that it fails with. -/
def Fate.outcome (fate : Fate) (kind : BatchKind) (d : Db) (item : ListingBatchItem) :
    Except ServiceError (Errand × PublishResult) := do
  let errand ← errandFor kind d item fate.gate
  let result ← BatchCall.result ⟨kind, item, errand, fate.answer⟩
  match fate.fault with
  | some e => .error e
  | none =>
    if kind = .publish ∧ platformSkuClash d errand.listing result.platformSkuId then
      .error (.app 40005 "该店铺的平台 SKU 已映射到本地商品")
    else .ok (errand, result)

/-- The line afterwards. -/
def ListingBatchItem.settledBy (item : ListingBatchItem) :
    Except ServiceError (Errand × PublishResult) → ListingBatchItem
  | .error e => { item with status := .failed, errorMessage := some (errorText e) }
  | .ok (errand, _) => { item with status := .succeeded, errorMessage := errand.note }

@[simp] lemma settledBy_id (item : ListingBatchItem)
    (o : Except ServiceError (Errand × PublishResult)) : (item.settledBy o).id = item.id := by
  cases o <;> rfl

@[simp] lemma settledBy_batchId (item : ListingBatchItem)
    (o : Except ServiceError (Errand × PublishResult)) :
    (item.settledBy o).batchId = item.batchId := by
  cases o <;> rfl

lemma settledBy_status (item : ListingBatchItem)
    (o : Except ServiceError (Errand × PublishResult)) :
    (item.settledBy o).status ≠ .pending := by
  cases o <;> simp [ListingBatchItem.settledBy]

section turn

variable {w : BatchWorld} {r : ℕ} {runner : BatchRunner} {item : ListingBatchItem} {fate : Fate}

/-- What a worker has found for the next line is what it is busy with. -/
lemma send_busy (hr : w.runners r = some runner) (hbusy : runner.busy = none)
    (hpending : runner.pending = some item) (fate : Fate) :
    ∃ busy, (w.send r fate.gate fate.answer).runners r = some busy ∧
      busy.batch = runner.batch ∧ busy.items = runner.items ∧
      (w.send r fate.gate fate.answer).data = w.data ∧
      busy.busy = some (item, (errandFor runner.batch.kind w.data item fate.gate).map
        fun errand => ⟨runner.batch.kind, item, errand, fate.answer⟩) := by
  simp only [BatchWorld.send, hr, hbusy, hpending]
  cases errandFor runner.batch.kind w.data item fate.gate with
  | error e => exact ⟨_, Function.update_self .., rfl, rfl, rfl, rfl⟩
  | ok errand => exact ⟨_, Function.update_self .., rfl, rfl, rfl, rfl⟩

/-- A line is sent and its outcome is written: either the line fails, or the call is committed. -/
lemma settle_send (hr : w.runners r = some runner) (hbusy : runner.busy = none)
    (hpending : runner.pending = some item) :
    let w' := (w.send r fate.gate fate.answer).settle r fate.fault
    (∃ e, fate.outcome runner.batch.kind w.data item = .error e ∧
      w'.data = (runner.markFailed w.data item.id e).1 ∧
      w'.runners r = (runner.markFailed w.data item.id e).2) ∨
    ∃ errand result, fate.outcome runner.batch.kind w.data item = .ok (errand, result) ∧
      errandFor runner.batch.kind w.data item fate.gate = .ok errand ∧
      BatchCall.result ⟨runner.batch.kind, item, errand, fate.answer⟩ = .ok result ∧
      w'.data = runner.commitCall w.data ⟨runner.batch.kind, item, errand, fate.answer⟩ result ∧
      w'.runners r = some (runner.afterCall ⟨runner.batch.kind, item, errand, fate.answer⟩) := by
  obtain ⟨busy, hsent, hbatch, hitems, hdata, hitem⟩ := send_busy hr hbusy hpending fate
  generalize w.send r fate.gate fate.answer = v at hsent hdata
  have hfail : ∀ e, (v.fail r busy item.id e).data = (runner.markFailed w.data item.id e).1 ∧
      (v.fail r busy item.id e).runners r = (runner.markFailed w.data item.id e).2 := by
    intro e
    simp only [BatchWorld.fail, BatchRunner.markFailed, hdata, hbatch, BatchWorld.set,
      Function.update_self, and_self]
  simp only [BatchWorld.settle, hsent, hitem, Fate.outcome]
  cases errandFor runner.batch.kind w.data item fate.gate with
  | error e => exact .inl ⟨e, rfl, hfail e⟩
  | ok errand =>
    simp only [Except.map, bind, Except.bind]
    cases hresult : BatchCall.result ⟨runner.batch.kind, item, errand, fate.answer⟩ with
    | error e => exact .inl ⟨e, rfl, hfail e⟩
    | ok result =>
      cases fate.fault with
      | some e => exact .inl ⟨e, rfl, hfail e⟩
      | none =>
        simp only [hdata]
        by_cases hclash : runner.batch.kind = .publish ∧
            platformSkuClash w.data errand.listing result.platformSkuId
        · rw [if_pos hclash, if_pos hclash]
          exact .inl ⟨_, rfl, hfail _⟩
        · rw [if_neg hclash, if_neg hclash]
          refine .inr ⟨errand, result, rfl, rfl, hresult, ?_, ?_⟩
          · simp only [BatchRunner.commitCall, BatchRunner.noting, hbatch, hitems]
          · simp only [BatchWorld.set, Function.update_self, BatchRunner.afterCall,
              BatchRunner.noting, hbatch, hitems]

end turn

/-! ### What the lines before it leave -/

/-- What may have become of a listing on the way. -/
structure ListingKept (d : Db) (batch : ListingBatch) (fate : ℕ → Fate) (l l' : Listing) : Prop where
  id : l'.id = l.id
  shopId : l'.shopId = l.shopId
  deleted : l'.deleted = l.deleted
  selling : batch.kind = .publish → l'.selling = l.selling
  linkedAs : batch.kind = .price → l'.linkedAs = l.linkedAs
  platformSkuId : l'.platformSkuId = l.platformSkuId ∨
    ∃ j ∈ itemsFor d batch.id, j.status = .pending ∧ j.listingId = some l.id ∧
      ∃ result, (fate j.id).answer = .ok result ∧ l'.platformSkuId = some result.platformSkuId

/-- What a run leaves of the data that its lines look at. -/
structure Looks (d : Db) (batch : ListingBatch) (fate : ℕ → Fate) (g : Listing → Listing)
    (d' : Db) : Prop where
  listings : d'.listings = d.listings.map g
  kept : ∀ l ∈ d.listings, ListingKept d batch fate l (g l)
  skus : d'.skus = d.skus
  shops : d'.shops = d.shops

section looks

variable {d d' : Db} {batch : ListingBatch} {fate : ℕ → Fate} {g : Listing → Listing}

lemma Looks.findListing (h : Looks d batch fate g d') (listingId : ℕ) :
    findListing d' listingId = (CrossPilot.findListing d listingId).map g := by
  have hsame : (d.listings.map g).find? (fun l => l.id = listingId ∧ l.deleted = false) =
      (d.listings.find? fun l => l.id = listingId ∧ l.deleted = false).map g := by
    rw [List.find?_map]
    congr 1
    apply List.find?_congr
    intro l hl
    simp [(h.kept l hl).id, (h.kept l hl).deleted]
  rw [CrossPilot.findListing, CrossPilot.findListing, h.listings, hsame]
  cases d.listings.find? fun l => l.id = listingId ∧ l.deleted = false <;> rfl

/-- The errand with the listing as it is by now. -/
def Errand.by (g : Listing → Listing) (errand : Errand) : Errand :=
  { errand with listing := g errand.listing }

/-- A worker finds the same errand as at the start of the run. -/
lemma Looks.errandFor (h : Looks d batch fate g d') (item : ListingBatchItem)
    (gate : Except ServiceError (String × Option String)) :
    errandFor batch.kind d' item gate =
      (CrossPilot.errandFor batch.kind d item gate).map (Errand.by g) := by
  cases hkind : batch.kind with
  | publish =>
    simp only [CrossPilot.errandFor, publishErrand]
    cases item.listingId with
    | none => rfl
    | some listingId =>
      simp only [orError, bind, Except.bind, h.findListing]
      cases hfound : CrossPilot.findListing d listingId with
      | error e => rfl
      | ok listing =>
        have hselling : (g listing).selling = listing.selling :=
          (h.kept _ (mem_of_findListing hfound)).selling hkind
        simp only [Except.map, h.skus, CrossPilot.findShop, h.shops, hselling, pure, Except.pure]
        generalize (d.skus.find? _) = sku
        generalize (d.shops.find? _) = shop
        rcases sku with - | sku <;> rcases shop with - | shop <;>
          rcases listing.selling with - | selling <;> rcases gate with - | content <;> rfl
  | price =>
    simp only [CrossPilot.errandFor, repriceErrand]
    cases item.listingId with
    | none => rfl
    | some listingId =>
      cases item.priceAfter with
      | none => rfl
      | some price =>
        cases item.currencyAfter with
        | none => rfl
        | some currency =>
          simp only [bind, Except.bind, h.findListing]
          cases hfound : CrossPilot.findListing d listingId with
          | error e => rfl
          | ok listing =>
            have hlinked : (g listing).linkedAs = listing.linkedAs :=
              (h.kept _ (mem_of_findListing hfound)).linkedAs hkind
            simp only [Except.map, CrossPilot.findShop, h.shops, hlinked, pure, Except.pure]
            generalize (d.shops.find? _) = shop
            rcases listing.linkedAs with - | platformSkuId <;> rcases shop with - | shop <;> rfl

/-- The remark or the error that a line comes to, as far as the line shows it. -/
lemma settledBy_map (item : ListingBatchItem) (o : Except ServiceError (Errand × PublishResult)) :
    item.settledBy (o.map (Prod.map (Errand.by g) id)) = item.settledBy o := by
  cases o <;> rfl

/-- The listing that a line is about. -/
lemma listing_of_errandFor {kind : BatchKind} {item : ListingBatchItem}
    {gate : Except ServiceError (String × Option String)} {errand : Errand}
    (h : CrossPilot.errandFor kind d item gate = .ok errand) :
    errand.listing ∈ d.listings ∧ item.listingId = some errand.listing.id := by
  have hfound : ∀ {listingId listing}, CrossPilot.findListing d listingId = .ok listing →
      listing ∈ d.listings ∧ listingId = listing.id := by
    intro listingId listing hlisting
    have hid := List.find?_some (orError_eq_ok.mp hlisting)
    simp only [decide_eq_true_eq] at hid
    exact ⟨mem_of_findListing hlisting, hid.1.symm⟩
  cases kind with
  | publish =>
    obtain ⟨listingId, hid, h⟩ := bind_eq_ok.mp h
    obtain ⟨listing, hlisting, h⟩ := bind_eq_ok.mp h
    obtain ⟨sku, -, h⟩ := bind_eq_ok.mp h
    obtain ⟨shop, -, h⟩ := bind_eq_ok.mp h
    obtain ⟨selling, -, h⟩ := bind_eq_ok.mp h
    obtain ⟨content, -, h⟩ := bind_eq_ok.mp h
    cases h
    obtain ⟨hmem, rfl⟩ := hfound hlisting
    exact ⟨hmem, orError_eq_ok.mp hid⟩
  | price =>
    simp only [CrossPilot.errandFor, repriceErrand] at h
    split at h
    swap
    · cases h
    rename_i hid _ _
    obtain ⟨listing, hlisting, h⟩ := bind_eq_ok.mp h
    obtain ⟨hmem, hlid⟩ := hfound hlisting
    cases hlinked : listing.linkedAs with
    | none =>
      rw [hlinked] at h
      cases h
      exact ⟨hmem, hlid ▸ hid⟩
    | some platformSkuId =>
      rw [hlinked] at h
      obtain ⟨shop, -, h⟩ := bind_eq_ok.mp h
      cases h
      exact ⟨hmem, hlid ▸ hid⟩

/-- A listing clashes with the same listings as at the start of the run, if no line before it has to
do with its SKU id. -/
lemma Looks.clash (h : Looks d batch fate g d') {item : ListingBatchItem}
    (hapart : Apart d batch fate item) (hkind : batch.kind = .publish) {result : PublishResult}
    (hanswer : (fate item.id).answer = .ok result) {m : Listing} (hm : m ∈ d.listings)
    (hid : item.listingId = some m.id) :
    platformSkuClash d' (g m) result.platformSkuId = platformSkuClash d m result.platformSkuId := by
  rw [platformSkuClash, platformSkuClash, h.listings, List.any_map, Bool.eq_iff_iff,
    List.any_eq_true, List.any_eq_true]
  refine exists_congr fun l => and_congr_right fun hl => ?_
  rw [← Bool.eq_iff_iff]
  have hkept := h.kept l hl
  simp only [Function.comp_apply, hkept.id, hkept.shopId, hkept.deleted, (h.kept m hm).id,
    (h.kept m hm).shopId]
  rcases hkept.platformSkuId with hsame | ⟨j, hj, hpending, hjid, result', hanswer', hsku⟩
  · rw [hsame]
  · -- the listing had another line, so its SKU id is not this one, before and after
    by_cases hclose : l.id ≠ m.id ∧ l.shopId = m.shopId
    · obtain ⟨hne, hne'⟩ := hapart hkind result hanswer m hm hid j hj hpending l hl hjid hclose.1
        hclose.2
      simp [hsku, hne, hne' result' hanswer']
    · by_cases hlid : l.id = m.id
      · simp [hlid]
      · have hshop : l.shopId ≠ m.shopId := fun hshop => hclose ⟨hlid, hshop⟩
        simp [hshop]

/-- A line comes to the same as at the start of the run. -/
lemma Looks.outcome (h : Looks d batch fate g d') {item : ListingBatchItem}
    (hapart : Apart d batch fate item) :
    (fate item.id).outcome batch.kind d' item =
      ((fate item.id).outcome batch.kind d item).map (Prod.map (Errand.by g) id) := by
  simp only [Fate.outcome, h.errandFor]
  cases herrand : CrossPilot.errandFor batch.kind d item (fate item.id).gate with
  | error e => rfl
  | ok errand =>
    obtain ⟨hmem, hid⟩ := listing_of_errandFor herrand
    have hresult : BatchCall.result ⟨batch.kind, item, errand.by g, (fate item.id).answer⟩ =
        BatchCall.result ⟨batch.kind, item, errand, (fate item.id).answer⟩ := rfl
    simp only [Except.map, bind, Except.bind, hresult]
    cases hanswer : BatchCall.result ⟨batch.kind, item, errand, (fate item.id).answer⟩ with
    | error e => rfl
    | ok result =>
      cases (fate item.id).fault with
      | some e => rfl
      | none =>
        by_cases hkind : batch.kind = .publish
        · have hsends := sends_of_errandFor herrand (fate item.id).answer
          rw [hsends.result_eq hkind] at hanswer
          have hclash := h.clash hapart hkind hanswer hmem hid
          simp only [Errand.by, hclash]
          split <;> rfl
        · simp only [hkind, false_and, if_false]
          rfl

end looks

/-! ### One turn of the loop -/

@[simp] lemma writeBack_self {α : Type} [DecidableEq α] (a b : α) : writeBack a b a = b := by
  by_cases h : b = a <;> simp [writeBack, h]

@[simp] lemma writeBack_unchanged {α : Type} [DecidableEq α] (a b : α) : writeBack a a b = b := by
  simp [writeBack]

/-- Where nobody else writes, a transaction writes what it has. -/
lemma writeBatch_applyCounts (batch : ListingBatch) (items : List ListingBatchItem)
    (running : Bool) :
    writeBatch batch (applyCounts batch items running) batch = applyCounts batch items running := by
  simp [writeBatch, applyCounts]

/-- One line is worked off, and comes to `o`. -/
structure Turn (r : ℕ) (fate : Fate) (item : ListingBatchItem) (o : Except ServiceError (Errand × PublishResult))
    (w : BatchWorld) (runner : BatchRunner) (w' : BatchWorld) (runner' : BatchRunner) : Prop where
  here : w'.runners r = some runner'
  idle : runner'.busy = none
  counted : runner'.batch = applyCounts runner.batch runner'.items true
  batches :
    w'.data.batches = alter ListingBatch.id runner.batch.id (fun _ => runner'.batch) w.data.batches
  rows : w'.data.batchItems = alter ListingBatchItem.id item.id (·.settledBy o) w.data.batchItems
  noted : runner'.items = alter ListingBatchItem.id item.id (·.settledBy o) runner.items
  skus : w'.data.skus = w.data.skus
  shops : w'.data.shops = w.data.shops
  listings : ∃ g, w'.data.listings = w.data.listings.map g ∧ ∀ l,
    (g l).id = l.id ∧ (g l).shopId = l.shopId ∧ (g l).deleted = l.deleted ∧
      (runner.batch.kind = .publish → (g l).selling = l.selling) ∧
      (runner.batch.kind = .price → (g l).linkedAs = l.linkedAs) ∧
      ((g l).platformSkuId = l.platformSkuId ∨ item.listingId = some l.id ∧
        ∃ result, fate.answer = .ok result ∧ (g l).platformSkuId = some result.platformSkuId)

section turns

variable {r : ℕ} {w : BatchWorld} {runner : BatchRunner} {item : ListingBatchItem} {fate : Fate}

/-- What the commit of a call makes of a listing. -/
lemma writeListing_kept (kind : BatchKind) (item : ListingBatchItem) (result : PublishResult)
    (loaded l : Listing) :
    let l' := writeListing loaded (listingAfter kind item result loaded) l
    l'.id = l.id ∧ l'.shopId = l.shopId ∧ l'.deleted = l.deleted ∧
      (kind = .publish → l'.selling = l.selling) ∧ (kind = .price → l'.linkedAs = l.linkedAs) ∧
      (l'.platformSkuId = l.platformSkuId ∨
        kind = .publish ∧ l'.platformSkuId = some result.platformSkuId) := by
  cases kind with
  | publish =>
    refine ⟨rfl, rfl, rfl, fun _ => ?_, by simp, ?_⟩
    · simp [writeListing, listingAfter, Listing.selling]
    · by_cases h : some result.platformSkuId = loaded.platformSkuId <;>
        simp [writeListing, listingAfter, writeBack, h]
  | price =>
    refine ⟨rfl, rfl, rfl, by simp, fun _ => ?_, .inl ?_⟩
    · simp [writeListing, listingAfter, Listing.linkedAs]
    · simp [writeListing, listingAfter]

lemma turn_fail (hbatches : Keyed ListingBatch.id w.data.batches)
    (hstored : runner.batch ∈ w.data.batches) (hitems : Keyed ListingBatchItem.id w.data.batchItems)
    (hnoted : runner.items = itemsFor w.data runner.batch.id) (hitem : item ∈ runner.items)
    {e : ServiceError} {w' : BatchWorld}
    (hdata : w'.data = (runner.markFailed w.data item.id e).1)
    (hrunner : w'.runners r = (runner.markFailed w.data item.id e).2) :
    ∃ runner', Turn r fate item (.error e) w runner w' runner' := by
  have hfind : w.data.batches.find? (fun b => b.id = runner.batch.id) = some runner.batch :=
    (find?_eq_some_iff hbatches).mpr ⟨hstored, rfl⟩
  rw [BatchRunner.markFailed, hfind] at hdata hrunner
  obtain ⟨hmem, hbatch⟩ := mem_itemsFor.mp (hnoted ▸ hitem)
  refine ⟨_, hrunner, rfl, rfl, ?_, ?_, ?_, ?_, ?_, id, ?_, fun l =>
    ⟨rfl, rfl, rfl, fun _ => rfl, fun _ => rfl, .inl rfl⟩⟩
  · rw [hdata]
  · rw [hdata]
    apply List.map_congr_left
    intro i hi
    by_cases hid : i.id = item.id
    · have hsame : i = item := hitems.eq_of_key_eq hi hmem hid
      rw [hsame, if_pos ⟨rfl, hbatch⟩, if_pos rfl]
      rfl
    · rw [if_neg fun h => hid h.1, if_neg hid]
  · rw [hnoted]
    rfl
  · rw [hdata]
  · rw [hdata]
  · rw [hdata, List.map_id]

lemma turn_commit (hbatches : Keyed ListingBatch.id w.data.batches)
    (hstored : runner.batch ∈ w.data.batches) (hitems : Keyed ListingBatchItem.id w.data.batchItems)
    (hnoted : runner.items = itemsFor w.data runner.batch.id) (hitem : item ∈ runner.items)
    {errand : Errand} {result : PublishResult} {w' : BatchWorld}
    (herrand : errandFor runner.batch.kind w.data item fate.gate = .ok errand)
    (hresult : BatchCall.result ⟨runner.batch.kind, item, errand, fate.answer⟩ = .ok result)
    (hdata : w'.data =
      runner.commitCall w.data ⟨runner.batch.kind, item, errand, fate.answer⟩ result)
    (hrunner : w'.runners r =
      some (runner.afterCall ⟨runner.batch.kind, item, errand, fate.answer⟩)) :
    ∃ runner', Turn r fate item (.ok (errand, result)) w runner w' runner' := by
  obtain ⟨hmem, hbatch⟩ := mem_itemsFor.mp (hnoted ▸ hitem)
  have hsame : ∀ i ∈ w.data.batchItems, i.id = item.id → i = item := fun i hi hid =>
    hitems.eq_of_key_eq hi hmem hid
  refine ⟨_, hrunner, rfl, rfl, ?_, ?_, ?_, ?_, ?_,
    fun l => if l.id = errand.listing.id then writeListing errand.listing
      (listingAfter runner.batch.kind item result errand.listing) l else l, ?_, fun l => ?_⟩
  · rw [hdata]
    refine alter_congr fun b hb hid => ?_
    rw [hbatches.eq_of_key_eq hb hstored hid]
    exact writeBatch_applyCounts ..
  · rw [hdata]
    refine alter_congr fun i hi hid => ?_
    rw [hsame i hi hid]
    simp [writeItem, BatchRunner.done, ListingBatchItem.settledBy]
  · refine alter_congr fun i hi hid => ?_
    rw [hsame i (mem_itemsFor.mp (hnoted ▸ hi)).1 hid]
    rfl
  · rw [hdata]
    rfl
  · rw [hdata]
    rfl
  · rw [hdata]
    rfl
  · by_cases hl : l.id = errand.listing.id
    · simp only [if_pos hl]
      obtain ⟨hlid, hshop, hdeleted, hselling, hlinked, hsku⟩ :=
        writeListing_kept runner.batch.kind item result errand.listing l
      refine ⟨hlid, hshop, hdeleted, hselling, hlinked, hsku.imp_right ?_⟩
      rintro ⟨hkind, hsku⟩
      have hsends := sends_of_errandFor herrand fate.answer
      have hid := (listing_of_errandFor herrand).2
      exact ⟨hl ▸ hid, result, (hsends.result_eq hkind).symm.trans hresult, hsku⟩
    · simp [hl]

/-- A turn of the loop works off the next line. -/
lemma exists_turn (fate : Fate) (hr : w.runners r = some runner) (hbusy : runner.busy = none)
    (hpending : runner.pending = some item) (hbatches : Keyed ListingBatch.id w.data.batches)
    (hstored : runner.batch ∈ w.data.batches) (hitems : Keyed ListingBatchItem.id w.data.batchItems)
    (hnoted : runner.items = itemsFor w.data runner.batch.id) :
    ∃ runner', Turn r fate item (fate.outcome runner.batch.kind w.data item) w runner
      ((w.send r fate.gate fate.answer).settle r fate.fault) runner' := by
  have hitem : item ∈ runner.items := List.mem_of_find?_eq_some hpending
  rcases settle_send hr hbusy hpending with ⟨e, ho, hdata, hrunner⟩ |
    ⟨errand, result, ho, herrand, hresult, hdata, hrunner⟩
  · rw [ho]
    exact turn_fail hbatches hstored hitems hnoted hitem hdata hrunner
  · rw [ho]
    exact turn_commit hbatches hstored hitems hnoted hitem herrand hresult hdata hrunner

end turns

/-! ### The whole run -/

/-- What may have become of a line on the way. -/
structure LineKept (d : Db) (batch : ListingBatch) (fate : ℕ → Fate) (i i' : ListingBatchItem) :
    Prop where
  id : i'.id = i.id
  batchId : i'.batchId = i.batchId
  settled : i' = i ∨ i.batchId = batch.id ∧ i.status = .pending ∧ i'.status ≠ .pending ∧
    (Apart d batch fate i → i' = i.settledBy ((fate i.id).outcome batch.kind d i))

/-- A run on its way, between two lines. -/
structure Midway (r : ℕ) (d : Db) (batch : ListingBatch) (fate : ℕ → Fate) (w : BatchWorld)
    (runner : BatchRunner) : Prop where
  here : w.runners r = some runner
  idle : runner.busy = none
  id : runner.batch.id = batch.id
  kind : runner.batch.kind = batch.kind
  batches : Keyed ListingBatch.id w.data.batches
  stored : runner.batch ∈ w.data.batches
  noted : runner.items = itemsFor w.data batch.id
  looks : ∃ g, Looks d batch fate g w.data
  rows : ∃ f, w.data.batchItems = d.batchItems.map f ∧
    ∀ i ∈ d.batchItems, LineKept d batch fate i (f i)

section whole

variable {r : ℕ} {d : Db} {batch : ListingBatch} {fate : ℕ → Fate} {w : BatchWorld}
  {runner : BatchRunner}

/-- The lines of a batch after a change that keeps them where they are. -/
lemma itemsFor_map {d' : Db} {f : ListingBatchItem → ListingBatchItem}
    (h : d'.batchItems = d.batchItems.map f)
    (hf : ∀ i ∈ d.batchItems, (f i).id = i.id ∧ (f i).batchId = i.batchId) (batchId : ℕ) :
    itemsFor d' batchId = (itemsFor d batchId).map f := by
  have hfilter : d'.batchItems.filter (fun i => i.batchId = batchId) =
      (d.batchItems.filter fun i => i.batchId = batchId).map f := by
    rw [h, List.filter_map]
    congr 1
    apply List.filter_congr
    intro i hi
    simp [(hf i hi).2]
  rw [itemsFor, itemsFor, hfilter]
  refine (List.map_insertionSort _ _ f _ fun i hi j hj => ?_).symm
  rw [(hf i (List.mem_filter.mp hi).1).1, (hf j (List.mem_filter.mp hj).1).1]

lemma Midway.itemsFor (h : Midway r d batch fate w runner)
    {f : ListingBatchItem → ListingBatchItem} (hrows : w.data.batchItems = d.batchItems.map f)
    (hkept : ∀ i ∈ d.batchItems, LineKept d batch fate i (f i)) :
    runner.items = (CrossPilot.itemsFor d batch.id).map f := by
  rw [h.noted]
  exact itemsFor_map hrows (fun i hi => ⟨(hkept i hi).id, (hkept i hi).batchId⟩) batch.id

/-- A line that is still pending is as it was at the start. -/
lemma Midway.pending (h : Midway r d batch fate w runner) {item : ListingBatchItem}
    (hpending : runner.pending = some item) :
    item ∈ CrossPilot.itemsFor d batch.id ∧ item.status = .pending := by
  obtain ⟨f, hrows, hkept⟩ := h.rows
  have hmem : item ∈ runner.items := List.mem_of_find?_eq_some hpending
  have hstatus : item.status = .pending := by simpa using List.find?_some hpending
  rw [h.itemsFor hrows hkept] at hmem
  obtain ⟨i, hi, rfl⟩ := List.mem_map.mp hmem
  rcases (hkept i (mem_itemsFor.mp hi).1).settled with hsame | ⟨-, -, hsettled, -⟩
  · rw [hsame] at hstatus ⊢
    exact ⟨hi, hstatus⟩
  · exact absurd hstatus hsettled

/-- The listings stay as they may be when a line has its turn. -/
lemma Looks.turn {g : Listing → Listing} (h : Looks d batch fate g w.data)
    (hkind : runner.batch.kind = batch.kind) {item : ListingBatchItem}
    (hitem : item ∈ itemsFor d batch.id) (hpending : item.status = .pending)
    {o : Except ServiceError (Errand × PublishResult)} {w' : BatchWorld} {runner' : BatchRunner}
    (hturn : Turn r (fate item.id) item o w runner w' runner') :
    ∃ g', Looks d batch fate g' w'.data := by
  obtain ⟨k, hlistings, hk⟩ := hturn.listings
  refine ⟨k ∘ g, ?_, fun l hl => ?_, hturn.skus.trans h.skus, hturn.shops.trans h.shops⟩
  · rw [hlistings, h.listings, List.map_map]
  · obtain ⟨hid, hshop, hdeleted, hselling, hlinked, hsku⟩ := hk (g l)
    have hkept := h.kept l hl
    refine ⟨hid.trans hkept.id, hshop.trans hkept.shopId, hdeleted.trans hkept.deleted,
      fun hpublish => (hselling (hkind.trans hpublish)).trans (hkept.selling hpublish),
      fun hprice => (hlinked (hkind.trans hprice)).trans (hkept.linkedAs hprice), ?_⟩
    rcases hsku with hsame | ⟨hlid, hanswer⟩
    · rw [Function.comp_apply, hsame]
      exact hkept.platformSkuId
    · exact .inr ⟨item, hitem, hpending, hkept.id ▸ hlid, hanswer⟩

/-- A turn of the loop leaves one line less. -/
lemma Midway.turn (h : Midway r d batch fate w runner)
    (hkeyed : Keyed ListingBatchItem.id d.batchItems) {item : ListingBatchItem}
    (hpending : runner.pending = some item) :
    ∃ runner', Midway r d batch fate
        ((w.send r (fate item.id).gate (fate item.id).answer).settle r (fate item.id).fault)
        runner' ∧
      runner'.items.countP (·.status = .pending) < runner.items.countP (·.status = .pending) := by
  obtain ⟨f, hrows, hkept⟩ := h.rows
  obtain ⟨g, hlooks⟩ := h.looks
  obtain ⟨hitem, hstatus⟩ := h.pending hpending
  have hkeyed' : Keyed ListingBatchItem.id w.data.batchItems := by
    rw [hrows]
    exact hkeyed.map_of fun i hi => (hkept i hi).id
  have hnoted : runner.items = CrossPilot.itemsFor w.data runner.batch.id := by
    rw [h.noted, h.id]
  obtain ⟨runner', hturn⟩ := exists_turn (fate item.id) h.here h.idle hpending h.batches h.stored
    hkeyed' hnoted
  have hid : runner'.batch.id = runner.batch.id := by
    rw [hturn.counted]
    rfl
  refine ⟨runner', ⟨hturn.here, hturn.idle, hid.trans h.id, ?_, ?_, ?_, ?_,
    hlooks.turn h.kind hitem hstatus hturn, fun i => if i.id = item.id then (f i).settledBy
      ((fate item.id).outcome runner.batch.kind w.data item) else f i, ?_, fun i hi => ?_⟩, ?_⟩
  · rw [hturn.counted]
    exact h.kind
  · have hsame : alter ListingBatch.id runner.batch.id (fun _ => runner'.batch) w.data.batches =
        alter ListingBatch.id runner.batch.id (fun b => { runner'.batch with id := b.id })
          w.data.batches :=
      alter_congr fun b _ hb => by simp only [hb, ← hid]
    rw [hturn.batches, hsame]
    exact h.batches.alter fun _ => rfl
  · rw [hturn.batches]
    exact mem_alter_self (f := fun _ => runner'.batch) h.stored
  · rw [hturn.noted, h.noted]
    refine (itemsFor_map hturn.rows (fun i _ => ?_) batch.id).symm
    by_cases hi : i.id = item.id <;> simp [hi]
  · rw [hturn.rows, hrows, alter, List.map_map]
    apply List.map_congr_left
    intro i hi
    simp only [Function.comp_apply, (hkept i hi).id]
  · by_cases hi' : i.id = item.id
    · -- the line whose turn it is
      obtain ⟨hmem, hbatch⟩ := mem_itemsFor.mp hitem
      simp only [hkeyed.eq_of_key_eq hi hmem hi', if_true]
      have hsame : f item = item := by
        have hnow := List.mem_of_find?_eq_some hpending
        rw [h.itemsFor hrows hkept] at hnow
        obtain ⟨j, hj, hjitem⟩ := List.mem_map.mp hnow
        have hj' := (mem_itemsFor.mp hj).1
        have hjid : j.id = item.id := by rw [← hjitem, (hkept j hj').id]
        rw [← hkeyed.eq_of_key_eq hj' hmem hjid, hjitem, hkeyed.eq_of_key_eq hj' hmem hjid]
      rw [hsame, h.kind]
      refine ⟨settledBy_id .., settledBy_batchId .., .inr ⟨hbatch, hstatus, settledBy_status _ _, ?_⟩⟩
      intro hapart
      rw [hlooks.outcome hapart, settledBy_map]
    · simp only [if_neg hi']
      exact hkept i hi
  · rw [hturn.noted]
    refine countP_alter_lt (fun i => ?_) (List.mem_of_find?_eq_some hpending) rfl (by simp [hstatus])
    simpa using settledBy_status i _

lemma linesSettled_applyCounts {items : List ListingBatchItem} (h : ∀ i ∈ items, i.status ≠ .pending)
    (batch : ListingBatch) : LinesSettled (applyCounts batch items false) items := by
  have hpending : items.any (fun i => i.status = .pending) = false := by
    simpa [List.any_eq_false] using h
  have hsum : items.countP (·.status = .succeeded) + items.countP (·.status = .failed) +
      items.countP (·.status = .skipped) = items.length := by
    clear hpending
    induction items with
    | nil => rfl
    | cons i rest ih =>
      have hi := h i (by simp)
      have hrest := ih fun j hj => h j (by simp [hj])
      simp only [List.countP_cons, List.length_cons]
      cases hstatus : i.status <;> simp [hstatus] at hi ⊢ <;> omega
  refine ⟨h, rfl, rfl, rfl, hsum, ?_, ?_, ?_⟩
  all_goals
    simp only [applyCounts, hpending, Bool.false_eq_true, if_false]
    generalize items.countP (·.status = .succeeded) = succeeded
    generalize items.countP (·.status = .failed) = failed
    generalize items.countP (·.status = .skipped) = skipped
    grind

/-- What a run comes to: nobody works on the batch any more, and its lines are settled. -/
structure Ended (r : ℕ) (d : Db) (batch : ListingBatch) (fate : ℕ → Fate) (w : BatchWorld) :
    Prop where
  done : w.runners r = none
  stored : ∃ stored, w.data.batches.find? (fun b => b.id = batch.id) = some stored ∧
    LinesSettled stored (itemsFor w.data batch.id)
  rows : ∃ f, w.data.batchItems = d.batchItems.map f ∧
    ∀ i ∈ d.batchItems, LineKept d batch fate i (f i)

lemma Midway.finish (h : Midway r d batch fate w runner) (hpending : runner.pending = none) :
    Ended r d batch fate (w.finish r) := by
  have hfinal : ∀ i ∈ CrossPilot.itemsFor w.data batch.id, i.status ≠ .pending := by
    rw [← h.noted]
    intro i hi
    simpa using List.find?_eq_none.mp hpending i hi
  have hw : w.finish r = { w.set r none with data := { w.data with
      batches := alter ListingBatch.id runner.batch.id
        (writeBatch runner.batch (applyCounts runner.batch runner.items false)) w.data.batches } } := by
    simp only [BatchWorld.finish, h.here, h.idle, hpending]
  refine ⟨?_, ⟨applyCounts runner.batch runner.items false, ?_, ?_⟩, ?_⟩
  · rw [hw]
    exact Function.update_self ..
  · rw [hw]
    have hkeyed : Keyed ListingBatch.id (alter ListingBatch.id runner.batch.id
        (writeBatch runner.batch (applyCounts runner.batch runner.items false)) w.data.batches) :=
      h.batches.alter fun _ => rfl
    refine (find?_eq_some_iff hkeyed).mpr ⟨mem_alter.mpr ⟨runner.batch, h.stored, ?_⟩, h.id⟩
    rw [if_pos rfl, writeBatch_applyCounts]
  · rw [hw, h.noted]
    exact linesSettled_applyCounts hfinal runner.batch
  · rw [hw]
    exact h.rows

/-- The loop ends, for each turn leaves one line less. -/
lemma Midway.work (h : Midway r d batch fate w runner)
    (hkeyed : Keyed ListingBatchItem.id d.batchItems) {n : ℕ}
    (hn : runner.items.countP (·.status = .pending) < n) :
    Ended r d batch fate (w.work r fate n) := by
  induction n generalizing w runner with
  | zero => cases hn
  | succ n ih =>
    rw [BatchWorld.work, h.here]
    cases hpending : runner.pending with
    | none =>
      simp only [hpending]
      exact h.finish hpending
    | some item =>
      simp only [hpending]
      obtain ⟨runner', hmidway, hless⟩ := h.turn hkeyed hpending
      exact ih hmidway (by omega)

/-- A run of a batch from its beginning. -/
lemma ended_runBatch (hr : w.runners r = none) (h : Counted w.data batch) {n : ℕ}
    (hn : (itemsFor w.data batch.id).length < n) (fate : ℕ → Fate) :
    Ended r w.data batch fate (w.runBatch r fate n batch) := by
  have hfind : w.data.batches.find? (fun b => b.id = batch.id) = some batch :=
    (find?_eq_some_iff h.batches).mpr ⟨h.mem, rfl⟩
  have hrows : ∃ f, w.data.batchItems = w.data.batchItems.map f ∧
      ∀ i ∈ w.data.batchItems, LineKept w.data batch fate i (f i) :=
    ⟨id, (List.map_id _).symm, fun i _ => ⟨rfl, rfl, .inl rfl⟩⟩
  by_cases hfinished : batch.status ∈ [BatchStatus.succeeded, .partly, .failed]
  · -- the batch has been run before
    have hstart : w.start r batch.kind batch.id = w := by
      simp only [BatchWorld.start, hr, hfind, hfinished, or_true, if_true]
    have hwork : w.work r fate n = w := by
      cases n with
      | zero => rfl
      | succ n => rw [BatchWorld.work, hr]
    rw [BatchWorld.runBatch, hstart, hwork]
    have hcounts := h.counts hfinished
    refine ⟨hr, ⟨batch, hfind, ?_⟩, hrows⟩
    rw [← hcounts]
    refine linesSettled_applyCounts (fun i hi hpending => ?_) batch
    have hany : (itemsFor w.data batch.id).any (fun i => i.status = .pending) = true :=
      List.any_eq_true.mpr ⟨i, hi, by simpa using hpending⟩
    rw [← hcounts, applyCounts] at hfinished
    simp [hany] at hfinished
  · have hstart : w.start r batch.kind batch.id =
        w.set r (some { batch, items := itemsFor w.data batch.id }) := by
      simp only [BatchWorld.start, hr, hfind, hfinished, ne_eq, not_true_eq_false, or_self, if_false]
    rw [BatchWorld.runBatch, hstart]
    let runner : BatchRunner := { batch, items := itemsFor w.data batch.id }
    have hset : (w.set r (some runner)).runners r = some runner := Function.update_self ..
    refine Midway.work
      ⟨hset, rfl, rfl, rfl, h.batches, h.mem, rfl, ⟨id, ?_⟩, hrows⟩ h.items
      (lt_of_le_of_lt List.countP_le_length hn)
    exact ⟨(List.map_id _).symm, fun l _ => ⟨rfl, rfl, rfl, fun _ => rfl, fun _ => rfl, .inl rfl⟩,
      rfl, rfl⟩

/-- The line that a run leaves, if no other line has to do with its SKU id. -/
lemma Ended.find? (h : Ended r d batch fate w) (hkeyed : Keyed ListingBatchItem.id d.batchItems)
    {i : ListingBatchItem} (hi : i ∈ itemsFor d batch.id) (hapart : Apart d batch fate i) :
    (itemsFor w.data batch.id).find? (fun j => j.id = i.id) =
      some (if i.status = .pending then i.settledBy ((fate i.id).outcome batch.kind d i) else i) := by
  obtain ⟨f, hrows, hkept⟩ := h.rows
  obtain ⟨stored, -, hsettled⟩ := h.stored
  have hmem := (mem_itemsFor.mp hi).1
  have hitems := itemsFor_map hrows (fun j hj => ⟨(hkept j hj).id, (hkept j hj).batchId⟩) batch.id
  have hfound : (itemsFor d batch.id).find? (fun j => (f j).id = i.id) = some i := by
    have hcongr : (itemsFor d batch.id).find? (fun j => (f j).id = i.id) =
        (itemsFor d batch.id).find? (fun j => j.id = i.id) := by
      apply List.find?_congr
      intro j hj
      simp only [(hkept j (mem_itemsFor.mp hj).1).id]
    rw [hcongr]
    refine (find?_eq_some_iff ?_).mpr ⟨hi, rfl⟩
    have hfilter : Keyed ListingBatchItem.id (d.batchItems.filter fun j => j.batchId = batch.id) :=
      hkeyed.sublist (List.filter_sublist.map _)
    exact ((List.perm_insertionSort _ _).map _).nodup_iff.mpr hfilter
  have hfinal : (f i).status ≠ .pending :=
    hsettled.final (f i) (hitems ▸ List.mem_map_of_mem hi)
  rw [hitems, List.find?_map]
  change ((itemsFor d batch.id).find? fun j => (f j).id = i.id).map f = _
  rw [hfound, Option.map_some]
  rcases (hkept i hmem).settled with hsame | ⟨-, hpending, -, hpredicted⟩
  · rw [hsame] at hfinal ⊢
    rw [if_neg hfinal]
  · rw [hpredicted hapart, if_pos hpending]

/-- A run of a batch comes to its end, whatever befalls the lines. Then all lines are settled, and
the batch counts them. A line comes out the same whatever befalls the others, as long as no other
has to do with the SKU id that the platform gives to it. -/
theorem runBatch_isolated (hr : w.runners r = none) (h : Counted w.data batch) {n : ℕ}
    (hn : (itemsFor w.data batch.id).length < n) (fate : ℕ → Fate) :
    let after := w.runBatch r fate n batch
    after.runners r = none ∧
      (itemsFor after.data batch.id).map (·.id) = (itemsFor w.data batch.id).map (·.id) ∧
      (∃ stored, after.data.batches.find? (fun b => b.id = batch.id) = some stored ∧
        LinesSettled stored (itemsFor after.data batch.id)) ∧
      ∀ fate' : ℕ → Fate, ∀ i ∈ itemsFor w.data batch.id, fate' i.id = fate i.id →
        Apart w.data batch fate i → Apart w.data batch fate' i →
          (itemsFor (w.runBatch r fate' n batch).data batch.id).find? (fun j => j.id = i.id) =
            (itemsFor after.data batch.id).find? (fun j => j.id = i.id) := by
  intro after
  have hended : Ended r w.data batch fate after := ended_runBatch hr h hn fate
  obtain ⟨f, hrows, hkept⟩ := hended.rows
  refine ⟨hended.done, ?_, hended.stored, fun fate' i hi hsame hapart hapart' => ?_⟩
  · rw [itemsFor_map hrows (fun i hi => ⟨(hkept i hi).id, (hkept i hi).batchId⟩), List.map_map]
    apply List.map_congr_left
    intro i hi
    exact (hkept i (mem_itemsFor.mp hi).1).id
  · rw [hended.find? h.items hi hapart,
      (ended_runBatch hr h hn fate').find? h.items hi hapart', hsame]

end whole

/-- Two lines of a batch, for two SKUs in one shop. -/
def twoLines : Db where
  skus := [{ id := 5 }, { id := 6 }]
  shops := [{ id := 1, platformCode := "SHOPEE" }]
  listings := [
    { id := 7, skuId := 5, shopId := 1, platformSkuId := none, status := .draft
      price := some 9, currency := some "CNY" },
    { id := 8, skuId := 6, shopId := 1, platformSkuId := none, status := .draft
      price := some 9, currency := some "CNY" }]
  batches := [{ id := 2, kind := .publish, status := .pending, total := 2 }]
  batchItems := [
    { id := 3, batchId := 2, skuId := 5, shopId := 1, listingId := some 7, status := .pending
      priceBefore := none, currencyBefore := none, priceAfter := some 9, currencyAfter := some "CNY" },
    { id := 4, batchId := 2, skuId := 6, shopId := 1, listingId := some 8, status := .pending
      priceBefore := none, currencyBefore := none, priceAfter := some 9, currencyAfter := some "CNY" }]

def publishBatch : ListingBatch := { id := 2, kind := .publish, status := .pending, total := 2 }

/-- The platform takes all lines but one, and calls them by the names that it is given. -/
def taken (refused : ℕ) (name : ℕ → String) (id : ℕ) : Fate where
  gate := .ok ("title", none)
  answer := if id = refused then .error (.adapter "timeout") else .ok ⟨"product", name id⟩

lemma name_of_taken {refused : ℕ} {name : ℕ → String} {id : ℕ} {result : PublishResult}
    (h : (taken refused name id).answer = .ok result) : result.platformSkuId = name id := by
  by_cases hid : id = refused
  · simp [taken, hid] at h
  · simp only [taken, if_neg hid, Except.ok.injEq] at h
    rw [← h]

theorem runBatch_isolated_twoLines :
    let name (id : ℕ) := if id = 3 then "first" else "second"
    let run (refused : ℕ) :=
      (BatchWorld.fresh twoLines).runBatch 0 (taken refused name) 3 publishBatch
    (itemsFor (run 3).data 2).find? (fun j => j.id = 4) =
        (itemsFor (run 0).data 2).find? (fun j => j.id = 4) ∧
      ((itemsFor (run 3).data 2).map (·.status)) = [.failed, .succeeded] := by
  intro name run
  have hcounted : Counted (BatchWorld.fresh twoLines).data publishBatch :=
    ⟨by decide, by decide, by decide, fun h => by simp [publishBatch] at h⟩
  have hapart : ∀ refused, Apart (BatchWorld.fresh twoLines).data publishBatch
      (taken refused name) twoLines.batchItems[1] := by
    intro refused _ result hanswer m hm hid j hj _ l hl hjid hne _
    have hj := (mem_itemsFor.mp hj).1
    simp only [BatchWorld.fresh, twoLines, List.mem_cons, List.not_mem_nil, or_false] at hm hl hj
    rcases hj with rfl | rfl
    · refine ⟨by rcases hl with rfl | rfl <;> simp, fun result' hanswer' => ?_⟩
      rw [name_of_taken hanswer, name_of_taken hanswer']
      decide
    · rw [show twoLines.batchItems[1].listingId = some 8 from rfl, Option.some_inj] at hid
      rw [Option.some_inj] at hjid
      exact absurd (hjid.symm.trans hid) hne
  refine ⟨?_, by decide +kernel⟩
  exact (runBatch_isolated (r := 0) rfl hcounted (by decide +kernel) (taken 0 name)).2.2.2
    (taken 3 name) twoLines.batchItems[1] (by decide +kernel) rfl (hapart 0) (hapart 3)

/-- The platform calls two listings by one name. The second line is refused, unless the first one
has failed. -/
theorem one_name_twice :
    let run (refused : ℕ) :=
      (BatchWorld.fresh twoLines).runBatch 0 (taken refused fun _ => "name") 3 publishBatch
    taken 3 (fun _ => "name") 4 = taken 0 (fun _ => "name") 4 ∧
      ((itemsFor (run 0).data 2).map (·.status)) = [.succeeded, .failed] ∧
      ((itemsFor (run 3).data 2).map (·.status)) = [.failed, .succeeded] := by
  refine ⟨rfl, by decide +kernel, by decide +kernel⟩

end CrossPilot
