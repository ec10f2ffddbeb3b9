import CrossPilot.Inventory.Runs
import CrossPilot.Listing.Batch

/-!
# Runs of listing batches

Any number of batches are accepted, run and run again, in any order and at the same time. A run
remembers the lines of its batch as it read them first; only after a failure it reads them again. It
takes the next line that it believes to be pending, finds the errand for it in the committed data,
tells the platform, and writes the outcome in a transaction of its own. Of the rows that it has read
only those columns are written whose values it has changed.

A succeeded line that changes a price was sent with its own price, if there was anybody to tell. A
line to publish goes out with the price of the listing, which other batches may have changed since
the line was accepted; and it goes out even if another batch has published the listing by then.
`sent_as_accepted` says what was sent for the lines that have succeeded, and what follows if the
lines to publish find their listings as they were when they were accepted.
-/

namespace CrossPilot

open Transaction Table

/-! ### Runs -/

/-- A line that a worker has found an errand for, and the answer of the platform. -/
structure BatchCall where
  kind : BatchKind
  item : ListingBatchItem
  errand : Errand
  answer : Except ServiceError PublishResult

/-- What is written if all goes well. A listing that nobody was told of has no new ids. -/
def BatchCall.result (call : BatchCall) : Except ServiceError PublishResult :=
  if call.errand.message.isSome then call.answer else .ok ⟨"", ""⟩

/-- A run of a batch: what it remembers of the batch, and the line that is being worked on. -/
structure BatchRunner where
  batch : ListingBatch
  items : List ListingBatchItem
  busy : Option (ListingBatchItem × Except ServiceError BatchCall) := none

/-- The committed data, the runs under way, and the errands so far. -/
structure BatchWorld where
  data : Db
  runners : ℕ → Option BatchRunner
  calls : List BatchCall

/-- Something happens to the batches. -/
inductive BatchEvent
  | publish (payload : PublishBatchCreate) (l : Session)
  | prices (payload : PriceBatchCreate) (l : Session)
  | elsewhere (d : Db)
  | start (r : ℕ) (kind : BatchKind) (batchId : ℕ)
  | send (r : ℕ) (gate : Except ServiceError (String × Option String))
    (answer : Except ServiceError PublishResult)
  | settle (r : ℕ) (fault : Option ServiceError)
  | finish (r : ℕ)
  | crash (r : ℕ)

/-- The columns that a transaction has changed since it read them. -/
def writeBack {α : Type} [DecidableEq α] (loaded new current : α) : α :=
  if new = loaded then current else new

def writeListing (loaded new current : Listing) : Listing :=
  { current with
    status := writeBack loaded.status new.status current.status
    platformSkuId := writeBack loaded.platformSkuId new.platformSkuId current.platformSkuId
    platformProductId :=
      writeBack loaded.platformProductId new.platformProductId current.platformProductId
    price := writeBack loaded.price new.price current.price
    currency := writeBack loaded.currency new.currency current.currency }

def writeItem (loaded new current : ListingBatchItem) : ListingBatchItem :=
  { current with
    status := writeBack loaded.status new.status current.status
    errorMessage := writeBack loaded.errorMessage new.errorMessage current.errorMessage }

def writeBatch (loaded new current : ListingBatch) : ListingBatch :=
  { current with
    status := writeBack loaded.status new.status current.status
    succeeded := writeBack loaded.succeeded new.succeeded current.succeeded
    failed := writeBack loaded.failed new.failed current.failed
    skipped := writeBack loaded.skipped new.skipped current.skipped }

/-- `list_for_batch`. -/
def itemsFor (d : Db) (batchId : ℕ) : List ListingBatchItem :=
  (d.batchItems.filter fun i => i.batchId = batchId).insertionSort fun a b => a.id ≤ b.id

/-- The platform calls another listing of the shop by this name. -/
def platformSkuClash (d : Db) (listing : Listing) (platformSkuId : String) : Bool :=
  d.listings.any fun l => l.id ≠ listing.id && !l.deleted && l.shopId = listing.shopId &&
    l.platformSkuId = some platformSkuId

namespace BatchRunner

/-- The next line of a run. -/
def pending (runner : BatchRunner) : Option ListingBatchItem :=
  runner.items.find? fun i => i.status = .pending

/-- The lines with a new version of one of them. -/
def noting (runner : BatchRunner) (item : ListingBatchItem) : List ListingBatchItem :=
  alter ListingBatchItem.id item.id (fun _ => item) runner.items

/-- The line and the batch as a call that went well leaves them. -/
def done (call : BatchCall) : ListingBatchItem :=
  { call.item with status := .succeeded, errorMessage := call.errand.note }

/-- The commit of a call that went well. -/
def commitCall (runner : BatchRunner) (d : Db) (call : BatchCall) (result : PublishResult) : Db :=
  let listing := call.errand.listing
  let batch := applyCounts runner.batch (runner.noting (done call)) true
  { d with
    listings := alter Listing.id listing.id
      (writeListing listing (listingAfter call.kind call.item result listing)) d.listings
    batchItems := alter ListingBatchItem.id call.item.id (writeItem call.item (done call)) d.batchItems
    batches := alter ListingBatch.id runner.batch.id (writeBatch runner.batch batch) d.batches }

/-- The run after it. -/
def afterCall (runner : BatchRunner) (call : BatchCall) : BatchRunner :=
  let items := runner.noting (done call)
  { batch := applyCounts runner.batch items true, items }

/-- `_mark_failed`, after all that was remembered has been read again. -/
def markFailed (runner : BatchRunner) (d : Db) (itemId : ℕ) (e : ServiceError) :
    Db × Option BatchRunner :=
  match d.batches.find? fun b => b.id = runner.batch.id with
  | none => (d, none)
  | some batch =>
    let fail (i : ListingBatchItem) :=
      { i with status := .failed, errorMessage := some (errorText e) }
    let items := alter ListingBatchItem.id itemId fail (itemsFor d batch.id)
    let after := applyCounts batch items true
    ({ d with
        batchItems := d.batchItems.map fun i =>
          if i.id = itemId ∧ i.batchId = batch.id then fail i else i
        batches := alter ListingBatch.id batch.id (fun _ => after) d.batches },
      some { batch := after, items })

end BatchRunner

namespace BatchWorld

variable (w : BatchWorld)

def set (r : ℕ) (runner : Option BatchRunner) : BatchWorld :=
  { w with runners := Function.update w.runners r runner }

/-- The run of a batch begins, unless the batch is finished. -/
def start (r : ℕ) (kind : BatchKind) (batchId : ℕ) : BatchWorld :=
  match w.runners r, w.data.batches.find? fun b => b.id = batchId with
  | none, some batch =>
    if batch.kind ≠ kind ∨ batch.status ∈ [BatchStatus.succeeded, .partly, .failed] then w
    else w.set r (some { batch, items := itemsFor w.data batch.id })
  | _, _ => w

/-- The worker finds the errand for the next line, and tells the platform if there is anything to
tell. -/
def send (r : ℕ) (gate : Except ServiceError (String × Option String))
    (answer : Except ServiceError PublishResult) : BatchWorld :=
  match w.runners r with
  | some runner =>
    match runner.busy, runner.pending with
    | none, some item =>
      match errandFor runner.batch.kind w.data item gate with
      | .error e => w.set r (some { runner with busy := some (item, .error e) })
      | .ok errand =>
        let call : BatchCall := ⟨runner.batch.kind, item, errand, answer⟩
        { w.set r (some { runner with busy := some (item, .ok call) }) with
          calls := w.calls ++ [call] }
    | _, _ => w
  | none => w

def fail (r : ℕ) (runner : BatchRunner) (itemId : ℕ) (e : ServiceError) : BatchWorld :=
  let (data, after) := runner.markFailed w.data itemId e
  { w.set r after with data }

/-- The outcome of a line is written. -/
def settle (r : ℕ) (fault : Option ServiceError) : BatchWorld :=
  match w.runners r with
  | some runner =>
    match runner.busy with
    | some (item, .error e) => w.fail r runner item.id e
    | some (item, .ok call) =>
      match call.result, fault with
      | .error e, _ => w.fail r runner item.id e
      | .ok _, some e => w.fail r runner item.id e
      | .ok result, none =>
        if call.kind = .publish ∧ platformSkuClash w.data call.errand.listing result.platformSkuId then
          w.fail r runner item.id (.app 40005 "该店铺的平台 SKU 已映射到本地商品")
        else
          { w.set r (some (runner.afterCall call)) with
            data := runner.commitCall w.data call result }
    | none => w
  | none => w

/-- No line is left. -/
def finish (r : ℕ) : BatchWorld :=
  match w.runners r with
  | some runner =>
    match runner.busy, runner.pending with
    | none, none =>
      let batch := applyCounts runner.batch runner.items false
      { w.set r none with
        data := { w.data with
          batches :=
            alter ListingBatch.id runner.batch.id (writeBatch runner.batch batch) w.data.batches } }
    | _, _ => w
  | none => w

/-- What an event makes of the world. The rest of the system leaves the batches alone. -/
def next : BatchEvent → BatchWorld
  | .publish payload l => { w with data := (acceptPublish payload).commit l w.data }
  | .prices payload l => { w with data := (acceptPrices payload).commit l w.data }
  | .elsewhere d => { w with data :=
      { d with batches := w.data.batches, batchItems := w.data.batchItems } }
  | .start r kind batchId => w.start r kind batchId
  | .send r gate answer => w.send r gate answer
  | .settle r fault => w.settle r fault
  | .finish r => w.finish r
  | .crash r => w.set r none

/-- One event after the other. -/
def run : BatchWorld → List BatchEvent → BatchWorld
  | w, [] => w
  | w, event :: rest => (w.next event).run rest

/-- Each event has a property of the world that it meets. -/
def Along (P : BatchWorld → BatchEvent → Prop) : BatchWorld → List BatchEvent → Prop
  | _, [] => True
  | w, event :: rest => P w event ∧ Along P (w.next event) rest

end BatchWorld

/-! ### What the batches keep -/

/-- What never changes about a line. -/
def ListingBatchItem.line (i : ListingBatchItem) : ListingBatchItem :=
  { i with status := .pending, errorMessage := none }

/-- No batch and no line has gone. -/
structure Grown (d d' : Db) : Prop where
  batches : ∀ b ∈ d.batches, ∃ b' ∈ d'.batches, b'.id = b.id ∧ b'.kind = b.kind
  items : ∀ i ∈ d.batchItems, ∃ i' ∈ d'.batchItems, i'.line = i.line

/-- A listing stays, and stays linked. -/
def KeepsListings (d d' : Db) : Prop :=
  ∀ l ∈ d.listings, ∃ l' ∈ d'.listings, l'.id = l.id ∧ (l.status = .linked → l'.status = .linked)

/-- A batch has been accepted. -/
structure Staged (d d' : Db) : Prop where
  grown : Grown d d'
  items : Keyed ListingBatchItem.id d'.batchItems
  batches : Keyed ListingBatch.id d'.batches
  listings : Keyed Listing.id d'.listings
  keeps : KeepsListings d d'
  succeeded : ∀ i ∈ d'.batchItems, i.status = .succeeded → i ∈ d.batchItems

/-- The ids that a worker will draw are none of those of the listings, the batches and the lines. -/
structure Unassigned (l : Session) (d : Db) : Prop where
  injective : Function.Injective l.ids
  items : ∀ n, ∀ i ∈ d.batchItems, i.id ≠ l.ids n
  batches : ∀ n, ∀ b ∈ d.batches, b.id ≠ l.ids n
  listings : ∀ n, ∀ x ∈ d.listings, x.id ≠ l.ids n

section staging

variable {d : Db} {rows : List ListingBatch} {s : WorkState}

lemma Grown.refl (d : Db) : Grown d d := ⟨fun b hb => ⟨b, hb, rfl, rfl⟩, fun i hi => ⟨i, hi, rfl⟩⟩

lemma KeepsListings.refl (d : Db) : KeepsListings d d := fun l hl => ⟨l, hl, rfl, id⟩

/-- What holds while the lines of a batch are being accepted. -/
structure Staging (d : Db) (rows : List ListingBatch) (s : WorkState) : Prop where
  staged : Staged d s.data
  ids : Unassigned s.session s.data
  rows : s.data.batches = rows

/-- Nobody has this id, and nobody will draw it. -/
structure NewId (id : ℕ) (s : WorkState) : Prop where
  drawn : ∀ n, s.session.ids n ≠ id
  items : ∀ i ∈ s.data.batchItems, i.id ≠ id
  batches : ∀ b ∈ s.data.batches, b.id ≠ id
  listings : ∀ x ∈ s.data.listings, x.id ≠ id

variable {Q : ℕ → WorkState → Prop} {E : ServiceError → WorkState → Prop}

lemma wp_newId (hs : Staging d rows s) (h : ∀ id s', Staging d rows s' → NewId id s' → Q id s') :
    nextSnowflakeId.wp Q E s := by
  obtain ⟨hstaged, ⟨hinj, hitems, hbatches, hlistings⟩, hrows⟩ := hs
  rw [wp_nextSnowflakeId]
  refine h _ _ ⟨hstaged, ⟨fun m n hmn => ?_, fun n => hitems (n + 1), fun n => hbatches (n + 1),
    fun n => hlistings (n + 1)⟩, hrows⟩ ⟨fun n heq => ?_, hitems 0, hbatches 0, hlistings 0⟩
  · exact Nat.succ_injective (hinj hmn)
  · cases hinj heq

/-- A line is added. -/
lemma Staging.addItem (hs : Staging d rows s) {item : ListingBatchItem} (hid : NewId item.id s)
    (hstatus : item.status ≠ .succeeded) :
    Staging d rows { s with data := { s.data with batchItems := s.data.batchItems ++ [item] } } := by
  obtain ⟨⟨⟨hgb, hgi⟩, hitems, hbatches, hlistings, hkeeps, hsucceeded⟩, hids, hrows⟩ := hs
  refine ⟨⟨⟨hgb, fun i hi => ?_⟩, hitems.append_singleton hid.items, hbatches, hlistings, hkeeps,
    fun i hi hst => ?_⟩, ⟨hids.injective, fun n i hi => ?_, hids.batches, hids.listings⟩, hrows⟩
  · obtain ⟨i', hi', hline⟩ := hgi i hi
    exact ⟨i', List.mem_append_left _ hi', hline⟩
  · rcases List.mem_append.mp hi with hold | hnew
    · exact hsucceeded i hold hst
    · rw [List.mem_singleton.mp hnew] at hst
      exact absurd hst hstatus
  · rcases List.mem_append.mp hi with hold | hnew
    · exact hids.items n i hold
    · rw [List.mem_singleton.mp hnew]
      exact (hid.drawn n).symm

/-- A listing is added. -/
lemma Staging.addListing (hs : Staging d rows s) {row : Listing} (hid : NewId row.id s) :
    Staging d rows { s with data := { s.data with listings := s.data.listings ++ [row] } } := by
  obtain ⟨⟨⟨hgb, hgi⟩, hitems, hbatches, hlistings, hkeeps, hsucceeded⟩, hids, hrows⟩ := hs
  refine ⟨⟨⟨hgb, hgi⟩, hitems, hbatches, hlistings.append_singleton hid.listings, fun l hl => ?_,
    hsucceeded⟩, ⟨hids.injective, hids.items, hids.batches, fun n x hx => ?_⟩, hrows⟩
  · obtain ⟨l', hl', hkeep⟩ := hkeeps l hl
    exact ⟨l', List.mem_append_left _ hl', hkeep⟩
  · rcases List.mem_append.mp hx with hold | hnew
    · exact hids.listings n x hold
    · rw [List.mem_singleton.mp hnew]
      exact (hid.drawn n).symm

/-- A listing is changed, but not its status. -/
lemma Staging.changeListing (hs : Staging d rows s) {id : ℕ} {f : Listing → Listing}
    (hf : ∀ l, (f l).id = l.id ∧ (f l).status = l.status) :
    Staging d rows { s with data := { s.data with
      listings := alter Listing.id id f s.data.listings } } := by
  obtain ⟨⟨⟨hgb, hgi⟩, hitems, hbatches, hlistings, hkeeps, hsucceeded⟩, hids, hrows⟩ := hs
  refine ⟨⟨⟨hgb, hgi⟩, hitems, hbatches, hlistings.alter fun l => (hf l).1, fun l hl => ?_,
    hsucceeded⟩, ⟨hids.injective, hids.items, hids.batches, fun n x hx => ?_⟩, hrows⟩
  · obtain ⟨l', hl', hid, hkeep⟩ := hkeeps l hl
    refine ⟨if l'.id = id then f l' else l', mem_alter.mpr ⟨l', hl', rfl⟩, ?_⟩
    split
    · exact ⟨(hf l').1.trans hid, fun hlinked => (hf l').2.trans (hkeep hlinked)⟩
    · exact ⟨hid, hkeep⟩
  · obtain ⟨l, hl, rfl⟩ := mem_alter.mp hx
    split
    · rw [(hf l).1]
      exact hids.listings n l hl
    · exact hids.listings n l hl

/-- A batch is added. No batch of before has its id. -/
lemma wp_addBatch (hs : Staging d rows s) {kind : BatchKind} {count : ℕ}
    {Q : ListingBatch → WorkState → Prop} (h : ∀ batch rows' s', Staging d rows' s' →
      (∀ b ∈ rows', b.id = batch.id → b.kind = batch.kind) → Q batch s') :
    (addBatch kind count).wp Q E s := by
  rw [addBatch, Prog.bind_eq, Prog.wp_bind]
  refine wp_newId hs fun id s₁ hs₁ hid => ?_
  obtain ⟨⟨⟨hgb, hgi⟩, hitems, hbatches, hlistings, hkeeps, hsucceeded⟩, hids, -⟩ := hs₁
  refine h _ _ _ ⟨⟨⟨fun b hb => ?_, hgi⟩, hitems, hbatches.append_singleton hid.batches, hlistings,
    hkeeps, hsucceeded⟩, ⟨hids.injective, hids.items, fun n b hb => ?_, hids.listings⟩, rfl⟩
    fun b hb hbid => ?_
  · obtain ⟨b', hb', hkeep⟩ := hgb b hb
    exact ⟨b', List.mem_append_left _ hb', hkeep⟩
  · rcases List.mem_append.mp hb with hold | hnew
    · exact hids.batches n b hold
    · rw [List.mem_singleton.mp hnew]
      exact (hid.drawn n).symm
  · rcases List.mem_append.mp hb with hold | hnew
    · exact absurd hbid (hid.batches b hold)
    · rw [List.mem_singleton.mp hnew]

/-- A batch gets new counts. -/
lemma Staged.saveBatch {d' : Db} (hs : Staged d d') {id : ℕ} {f : ListingBatch → ListingBatch}
    (hf : ∀ b ∈ d'.batches, b.id = id → (f b).id = id ∧ (f b).kind = b.kind) :
    Staged d { d' with batches := alter ListingBatch.id id f d'.batches } := by
  obtain ⟨⟨hgb, hgi⟩, hitems, hbatches, hlistings, hkeeps, hsucceeded⟩ := hs
  have hsame : ∀ b ∈ d'.batches, (if b.id = id then f b else b).id = b.id ∧
      (if b.id = id then f b else b).kind = b.kind := by
    intro b hb
    split
    · rename_i hid
      exact ⟨(hf b hb hid).1.trans hid.symm, (hf b hb hid).2⟩
    · exact ⟨rfl, rfl⟩
  refine ⟨⟨fun b hb => ?_, hgi⟩, hitems, ?_, hlistings, hkeeps, hsucceeded⟩
  · obtain ⟨b', hb', hid, hk⟩ := hgb b hb
    exact ⟨_, mem_alter.mpr ⟨b', hb', rfl⟩, (hsame b' hb').1.trans hid, (hsame b' hb').2.trans hk⟩
  · exact hbatches.map_of fun b hb => (hsame b hb).1

open Prog in
lemma maintains_addItem {item : ℕ → ListingBatchItem} (hid : ∀ id, (item id).id = id)
    (hstatus : ∀ id, (item id).status ≠ .succeeded) :
    Maintains (Staging d rows) (nextSnowflakeId.bind fun id => addBatchItem (item id)) := by
  intro s hs
  rw [wp_bind]
  refine wp_newId hs fun id s₁ hs₁ hnew => ?_
  exact hs₁.addItem ((hid id).symm ▸ hnew) (hstatus id)

open Prog in
lemma maintains_stagePublish (batch : ListingBatch) (payload : PublishBatchCreate)
    (skuId shopId : ℕ) : Maintains (Staging d rows) (stagePublish batch payload skuId shopId) := by
  refine (Maintains.select _).bind fun linked => ?_
  cases linked with
  | some linked => exact maintains_addItem (fun _ => rfl) fun _ => by simp
  | none =>
    refine (Maintains.select _).bind fun current => Maintains.bind ?_ fun listingId =>
      maintains_addItem (fun _ => rfl) fun _ => by simp
    cases current with
    | none =>
      intro s hs
      rw [openListing, bind_eq, wp_bind]
      exact wp_newId hs fun id s₁ hs₁ hid => hs₁.addListing hid
    | some row =>
      exact (Maintains.update fun s hs => hs.changeListing fun l => ⟨rfl, rfl⟩).bind fun _ => .ret _

open Prog in
lemma maintains_stageAll {β : Type} {stage : β → Work ListingBatchItem}
    (h : ∀ x, Maintains (Staging d rows) (stage x)) (xs : List β) :
    Maintains (Staging d rows) (stageAll stage xs) := by
  induction xs with
  | nil => exact .ret _
  | cons x rest ih => exact (h x).bind fun _ => ih.bind fun _ => .ret _

open Prog in
/-- The lines of a new batch, and then its counts. -/
lemma wp_newBatch {β : Type} {kind : BatchKind} {stage : ListingBatch → β → Work ListingBatchItem}
    (h : ∀ rows batch x, Maintains (Staging d rows) (stage batch x)) (xs : List β)
    (hs : Staging d rows s) :
    ((addBatch kind xs.length).bind fun batch => (stageAll (stage batch) xs).bind fun rows =>
      saveBatch (applyCounts batch rows false)).wp (fun _ s' => Staged d s'.data)
        (fun _ _ => True) s := by
  rw [wp_bind]
  refine wp_addBatch hs fun batch rows' s₁ hs₁ hkind => ?_
  rw [wp_bind]
  refine wp_mono (maintains_stageAll (h rows' batch) xs s₁ hs₁) (fun items s₂ hs₂ => ?_)
    fun _ _ _ => trivial
  refine hs₂.staged.saveBatch fun b hb hid => ⟨rfl, ?_⟩
  exact (hkind b (hs₂.rows ▸ hb) hid).symm

open Prog in
/-- A batch is accepted, or nothing has happened. -/
theorem staged_publish {l : Session} (hl : Unassigned l d) (hd : Staged d d)
    (payload : PublishBatchCreate) : Staged d ((acceptPublish payload).commit l d) := by
  refine commit_of_wp ?_
  have hs : Staging d d.batches ⟨l, d, []⟩ := ⟨hd, hl, rfl⟩
  have hread : ∀ {β : Type} {p : β → Work Unit} {xs : List β} {k : Work Unit},
      (∀ x, Maintains (· = (⟨l, d, []⟩ : WorkState)) (p x)) →
      k.wp (fun _ s' => Staged d s'.data) (fun _ _ => Staged d d) ⟨l, d, []⟩ →
      ((Prog.forEach xs p).bind fun _ => k).wp (fun _ s' => Staged d s'.data)
        (fun _ _ => Staged d d) ⟨l, d, []⟩ := by
    intro β p xs k hp hk
    rw [wp_bind]
    refine wp_mono (Maintains.forEach (fun x _ => hp x) _ rfl) (fun _ s' h => ?_) fun _ _ _ => hd
    rw [h]
    exact hk
  unfold acceptPublish
  cases expandPairs payload.skuIds payload.shopIds with
  | error e => exact hd
  | ok pairs =>
    refine hread (fun _ => (maintains_getSku _).bind fun _ => .ret ()) <|
      hread (fun _ => ((Maintains.select _).bind fun o => maintains_orRaise _ o).bind
        fun _ => .ret ()) ?_
    exact wp_mono (wp_newBatch (fun rows batch pair => maintains_stagePublish batch payload _ _)
      pairs hs) (fun _ _ h => h) fun _ _ _ => hd

open Prog in
theorem staged_prices {l : Session} (hl : Unassigned l d) (hd : Staged d d)
    (payload : PriceBatchCreate) : Staged d ((acceptPrices payload).commit l d) := by
  refine commit_of_wp ?_
  have hs : Staging d d.batches ⟨l, d, []⟩ := ⟨hd, hl, rfl⟩
  have hload : Maintains (· = (⟨l, d, []⟩ : WorkState)) (loadListings payload.listingIds) := by
    unfold loadListings
    dsimp only
    split
    · exact .fail _
    · refine (Maintains.select _).bind fun found => ?_
      split
      · exact .fail _
      · exact .ret _
  unfold acceptPrices
  rw [bind_eq, wp_bind]
  refine wp_mono (hload _ rfl) (fun listings s' h => ?_) fun _ _ _ => hd
  rw [h]
  split
  · exact hd
  · exact wp_mono (wp_newBatch (fun rows batch listing =>
      maintains_addItem (fun _ => rfl) fun _ => by simp) listings hs) (fun _ _ h => h)
      fun _ _ _ => hd

end staging

/-! ### What was sent -/

/-- What a call has told the platform for a line: the new price of a linked listing, or the listing
with the price that it had. -/
def BatchCall.Sends (call : BatchCall) (row : ListingBatchItem) : Prop :=
  match call.kind with
  | .price => ∃ price currency, row.priceAfter = some price ∧ row.currencyAfter = some currency ∧
      call.errand.message = call.errand.listing.linkedAs.map fun platformSkuId =>
        .updatePrice row.shopId platformSkuId price currency
  | .publish => ∃ title price currency, call.errand.listing.price = some price ∧
      call.errand.listing.currency = some currency ∧
      call.errand.message = some (.publish row.shopId title row.skuId price currency)

/-- What a run remembers of a batch and its lines. -/
structure Remembers (d : Db) (runner : BatchRunner) : Prop where
  batch : ∃ b ∈ d.batches, b.id = runner.batch.id ∧ b.kind = runner.batch.kind
  items : ∀ m ∈ runner.items, m.batchId = runner.batch.id ∧ ∃ row ∈ d.batchItems, row.line = m.line

/-- A run is at a line of its own, with an errand that is known. -/
def Occupied (calls : List BatchCall) (runner : BatchRunner) : Prop :=
  ∀ item call, runner.busy = some (item, .ok call) →
    call ∈ calls ∧ call.item ∈ runner.items ∧ call.kind = runner.batch.kind

/-- What a line that has succeeded was sent with. -/
def ServedBy (d : Db) (calls : List BatchCall) (row : ListingBatchItem) : Prop :=
  ∃ call ∈ calls, call.item.line = row.line ∧ call.result.isOk ∧
    ∃ b ∈ d.batches, b.id = row.batchId ∧ b.kind = call.kind

/-- What is kept of batches and their runs. -/
structure Traced (w : BatchWorld) : Prop where
  items : Keyed ListingBatchItem.id w.data.batchItems
  batches : Keyed ListingBatch.id w.data.batches
  remembers : ∀ r runner, w.runners r = some runner → Remembers w.data runner
  occupied : ∀ r runner, w.runners r = some runner → Occupied w.calls runner
  sends : ∀ call ∈ w.calls, call.Sends call.item
  served : ∀ row ∈ w.data.batchItems, row.status = .succeeded → ServedBy w.data w.calls row

section traced

variable {w : BatchWorld} {d d' : Db} {runner : BatchRunner} {calls : List BatchCall}

lemma BatchCall.Sends.congr {call : BatchCall} {i j : ListingBatchItem} (h : call.Sends i)
    (heq : i.line = j.line) : call.Sends j := by
  have hshop : i.shopId = j.shopId := (congrArg ListingBatchItem.shopId heq :)
  have hsku : i.skuId = j.skuId := (congrArg ListingBatchItem.skuId heq :)
  have hprice : i.priceAfter = j.priceAfter := (congrArg ListingBatchItem.priceAfter heq :)
  have hcurrency : i.currencyAfter = j.currencyAfter :=
    (congrArg ListingBatchItem.currencyAfter heq :)
  unfold Sends at h ⊢
  rw [← hshop, ← hsku, ← hprice, ← hcurrency]
  exact h

lemma orError_eq_ok {α : Type} {e : ServiceError} {o : Option α} {a : α} :
    orError e o = .ok a ↔ o = some a := by
  cases o <;> simp [orError]

lemma mem_of_findListing {listingId : ℕ} {row : Listing} (h : findListing d listingId = .ok row) :
    row ∈ d.listings := List.mem_of_find?_eq_some (orError_eq_ok.mp h)

lemma eq_of_findShop {shopId : ℕ} {shop : Shop} (h : findShop d shopId = .ok shop) :
    shop.id = shopId := by
  simpa using List.find?_some (orError_eq_ok.mp h)

lemma selling_eq_some {listing : Listing} {selling : ℚ × String}
    (h : listing.selling = some selling) :
    listing.price = some selling.1 ∧ listing.currency = some selling.2 := by
  unfold Listing.selling at h
  split at h
  · rename_i hprice hcurrency
    cases h
    exact ⟨hprice, hcurrency⟩
  · cases h

/-- What is found for a line to publish. -/
lemma publishErrand_ok {item : ListingBatchItem}
    {gate : Except ServiceError (String × Option String)} {errand : Errand}
    (h : publishErrand d item gate = .ok errand) : errand.listing ∈ d.listings ∧
      ∃ title price currency, errand.listing.price = some price ∧
        errand.listing.currency = some currency ∧
        errand.message = some (.publish item.shopId title item.skuId price currency) := by
  obtain ⟨listingId, -, h⟩ := bind_eq_ok.mp h
  obtain ⟨listing, hlisting, h⟩ := bind_eq_ok.mp h
  obtain ⟨sku, hsku, h⟩ := bind_eq_ok.mp h
  obtain ⟨shop, hshop, h⟩ := bind_eq_ok.mp h
  obtain ⟨selling, hselling, h⟩ := bind_eq_ok.mp h
  obtain ⟨content, -, h⟩ := bind_eq_ok.mp h
  cases h
  have hskuId := List.find?_some (orError_eq_ok.mp hsku)
  simp only [decide_eq_true_eq] at hskuId
  obtain ⟨hprice, hcurrency⟩ := selling_eq_some (orError_eq_ok.mp hselling)
  refine ⟨mem_of_findListing hlisting, content.1, selling.1, selling.2, hprice, hcurrency, ?_⟩
  rw [eq_of_findShop hshop, hskuId.1]

/-- What is found for a line that changes a price. -/
lemma repriceErrand_ok {item : ListingBatchItem} {errand : Errand}
    (h : repriceErrand d item = .ok errand) :
    ∃ price currency, item.priceAfter = some price ∧ item.currencyAfter = some currency ∧
      errand.message = errand.listing.linkedAs.map fun platformSkuId =>
        .updatePrice item.shopId platformSkuId price currency := by
  unfold repriceErrand at h
  split at h
  swap
  · cases h
  rename_i price currency hid hprice hcurrency
  refine ⟨price, currency, hprice, hcurrency, ?_⟩
  obtain ⟨listing, -, h⟩ := bind_eq_ok.mp h
  cases hlinked : listing.linkedAs with
  | none =>
    rw [hlinked] at h
    cases h
    rw [hlinked]
    rfl
  | some platformSkuId =>
    rw [hlinked] at h
    obtain ⟨shop, hshop, h⟩ := bind_eq_ok.mp h
    cases h
    rw [hlinked, eq_of_findShop hshop]
    rfl

/-- What a worker finds for a line is sent for this line. -/
lemma sends_of_errandFor {kind : BatchKind} {item : ListingBatchItem}
    {gate : Except ServiceError (String × Option String)} {errand : Errand}
    (h : errandFor kind d item gate = .ok errand) (answer : Except ServiceError PublishResult) :
    (BatchCall.mk kind item errand answer).Sends item := by
  cases kind with
  | publish => exact (publishErrand_ok h).2
  | price => exact repriceErrand_ok h

lemma Remembers.grown (h : Remembers d runner) (hg : Grown d d') : Remembers d' runner := by
  obtain ⟨⟨b, hb, hid, hkind⟩, hitems⟩ := h
  obtain ⟨b', hb', hid', hkind'⟩ := hg.batches b hb
  refine ⟨⟨b', hb', hid'.trans hid, hkind'.trans hkind⟩, fun m hm => ?_⟩
  obtain ⟨hbatch, row, hrow, hline⟩ := hitems m hm
  obtain ⟨row', hrow', hline'⟩ := hg.items row hrow
  exact ⟨hbatch, row', hrow', hline'.trans hline⟩

lemma ServedBy.grown {row : ListingBatchItem} (h : ServedBy d calls row) (hg : Grown d d') :
    ServedBy d' calls row := by
  obtain ⟨call, hcall, hline, hok, b, hb, hid, hkind⟩ := h
  obtain ⟨b', hb', hid', hkind'⟩ := hg.batches b hb
  exact ⟨call, hcall, hline, hok, b', hb', hid'.trans hid, hkind'.trans hkind⟩

/-- The data change, and no line has succeeded for which nothing was sent. -/
lemma Traced.change (h : Traced w) (hg : Grown w.data d')
    (hitems : Keyed ListingBatchItem.id d'.batchItems) (hbatches : Keyed ListingBatch.id d'.batches)
    (hserved : ∀ row ∈ d'.batchItems, row.status = .succeeded → ServedBy w.data w.calls row) :
    Traced { w with data := d' } :=
  ⟨hitems, hbatches, fun r runner hr => (h.remembers r runner hr).grown hg, h.occupied, h.sends,
    fun row hrow hst => (hserved row hrow hst).grown hg⟩

/-- A run takes a step that is its own business. -/
lemma Traced.set (h : Traced w) {r : ℕ} {after : Option BatchRunner}
    (hafter : ∀ runner, after = some runner → Remembers w.data runner ∧ Occupied w.calls runner) :
    Traced (w.set r after) := by
  have each : ∀ r' runner, (w.set r after).runners r' = some runner →
      Remembers w.data runner ∧ Occupied w.calls runner := by
    intro r' runner hr
    by_cases heq : r' = r
    · subst heq
      simp only [BatchWorld.set, Function.update_self] at hr
      exact hafter runner hr
    · simp only [BatchWorld.set, Function.update_of_ne heq] at hr
      exact ⟨h.remembers r' runner hr, h.occupied r' runner hr⟩
  exact ⟨h.items, h.batches, fun r' runner hr => (each r' runner hr).1,
    fun r' runner hr => (each r' runner hr).2, h.sends, h.served⟩

/-- An idle run is at no line. -/
lemma occupied_of_idle (h : runner.busy = none) : Occupied calls runner := by
  intro item call hbusy
  rw [h] at hbusy
  cases hbusy

lemma mem_itemsFor {batchId : ℕ} {i : ListingBatchItem} :
    i ∈ itemsFor d batchId ↔ i ∈ d.batchItems ∧ i.batchId = batchId := by
  rw [itemsFor, (List.perm_insertionSort _ _).mem_iff, List.mem_filter, decide_eq_true_eq]

/-- A run that begins remembers what is there. -/
lemma Traced.start (h : Traced w) (r : ℕ) (kind : BatchKind) (batchId : ℕ) :
    Traced (w.start r kind batchId) := by
  unfold BatchWorld.start
  split
  · rename_i batch _ hfind
    split
    · exact h
    · refine h.set fun runner hr => ?_
      cases hr
      refine ⟨⟨⟨batch, List.mem_of_find?_eq_some hfind, rfl, rfl⟩, fun m hm => ?_⟩,
        occupied_of_idle rfl⟩
      obtain ⟨hmem, hbatch⟩ := mem_itemsFor.mp hm
      exact ⟨hbatch, m, hmem, rfl⟩
  · exact h

/-- What sending a line does: nothing, or the worker finds that it cannot be sent, or it is sent. -/
lemma send_cases (w : BatchWorld) (r : ℕ) (gate : Except ServiceError (String × Option String))
    (answer : Except ServiceError PublishResult) :
    w.send r gate answer = w ∨
      ∃ runner item, w.runners r = some runner ∧ runner.busy = none ∧ item ∈ runner.items ∧
        ((∃ e, w.send r gate answer = w.set r (some { runner with busy := some (item, .error e) })) ∨
        ∃ call : BatchCall, call.item = item ∧ call.kind = runner.batch.kind ∧
          call.answer = answer ∧ errandFor call.kind w.data item gate = .ok call.errand ∧
          w.send r gate answer =
            { w.set r (some { runner with busy := some (item, .ok call) }) with
              calls := w.calls ++ [call] }) := by
  unfold BatchWorld.send
  cases hr : w.runners r with
  | none => exact .inl rfl
  | some runner =>
    cases hbusy : runner.busy with
    | some _ => exact .inl (by simp only [hbusy])
    | none =>
      cases hpending : runner.pending with
      | none => exact .inl (by simp only [hbusy, hpending])
      | some item =>
        simp only [hbusy, hpending]
        refine .inr ⟨runner, item, rfl, hbusy, List.mem_of_find?_eq_some hpending, ?_⟩
        cases herrand : errandFor runner.batch.kind w.data item gate with
        | error e => exact .inl ⟨e, rfl⟩
        | ok errand => exact .inr ⟨⟨runner.batch.kind, item, errand, answer⟩, rfl, rfl, rfl, herrand, rfl⟩

/-- A worker that sends a line sends it for itself. -/
lemma Traced.send (h : Traced w) (r : ℕ) (gate : Except ServiceError (String × Option String))
    (answer : Except ServiceError PublishResult) : Traced (w.send r gate answer) := by
  rcases send_cases w r gate answer with hsame | ⟨runner, item, hr, -, hitem, hsent⟩
  · rw [hsame]
    exact h
  have hrem := h.remembers r runner hr
  rcases hsent with ⟨e, hsent⟩ | ⟨call, rfl, hkind, -, herrand, hsent⟩
  · rw [hsent]
    refine h.set fun after hafter => ?_
    cases hafter
    refine ⟨⟨hrem.batch, hrem.items⟩, fun item' call hcall => ?_⟩
    cases hcall
  · rw [hsent]
    have hgrown : Traced { w with calls := w.calls ++ [call] } := by
      refine ⟨h.items, h.batches, h.remembers, fun r' runner' hr' item' call' hcall => ?_,
        fun call' hcall => ?_, fun row hrow hst => ?_⟩
      · obtain ⟨hmem, hitem, hkind⟩ := h.occupied r' runner' hr' item' call' hcall
        exact ⟨List.mem_append_left _ hmem, hitem, hkind⟩
      · rcases List.mem_append.mp hcall with hold | hnew
        · exact h.sends call' hold
        · rw [List.mem_singleton.mp hnew]
          exact sends_of_errandFor herrand call.answer
      · obtain ⟨call', hmem, hserves⟩ := h.served row hrow hst
        exact ⟨call', List.mem_append_left _ hmem, hserves⟩
    refine hgrown.set fun after hafter => ?_
    cases hafter
    refine ⟨⟨hrem.batch, hrem.items⟩, fun item' call' hcall => ?_⟩
    cases hcall
    exact ⟨List.mem_append_right _ (List.mem_singleton_self call), hitem, hkind⟩

/-- A line that has failed was not sent for nothing. -/
lemma Traced.fail (h : Traced w) (r : ℕ) (runner : BatchRunner) (itemId : ℕ) (e : ServiceError) :
    Traced (w.fail r runner itemId e) := by
  unfold BatchWorld.fail BatchRunner.markFailed
  cases hfind : w.data.batches.find? fun b => b.id = runner.batch.id with
  | none => exact h.set fun _ hafter => by cases hafter
  | some batch =>
    let fail (i : ListingBatchItem) : ListingBatchItem :=
      { i with status := .failed, errorMessage := some (errorText e) }
    let pick (i : ListingBatchItem) : ListingBatchItem :=
      if i.id = itemId ∧ i.batchId = batch.id then fail i else i
    let after := applyCounts batch (alter ListingBatchItem.id itemId fail (itemsFor w.data batch.id)) true
    let d' : Db := { w.data with
      batchItems := w.data.batchItems.map pick
      batches := alter ListingBatch.id batch.id (fun _ => after) w.data.batches }
    have hpick : ∀ i, (pick i).id = i.id ∧ (pick i).line = i.line := by
      intro i
      unfold pick
      split <;> exact ⟨rfl, rfl⟩
    have hmem := List.mem_of_find?_eq_some hfind
    have hsame : ∀ b ∈ w.data.batches, (if b.id = batch.id then after else b).id = b.id ∧
        (if b.id = batch.id then after else b).kind = b.kind := by
      intro b hb
      split
      · rename_i hid
        rw [h.batches.eq_of_key_eq hb hmem hid]
        exact ⟨rfl, rfl⟩
      · exact ⟨rfl, rfl⟩
    have hgrown : Grown w.data d' := by
      refine ⟨fun b hb => ⟨_, mem_alter.mpr ⟨b, hb, rfl⟩, hsame b hb⟩, fun i hi => ?_⟩
      exact ⟨pick i, List.mem_map_of_mem hi, (hpick i).2⟩
    have hitems : Keyed ListingBatchItem.id d'.batchItems :=
      h.items.map_of fun i _ => (hpick i).1
    have hbatches : Keyed ListingBatch.id d'.batches :=
      h.batches.map_of fun b hb => (hsame b hb).1
    have hchange : Traced { w with data := d' } := by
      refine h.change hgrown hitems hbatches fun row hrow hst => ?_
      obtain ⟨i, hi, rfl⟩ := List.mem_map.mp hrow
      have hserved : i.status = .succeeded ∧ pick i = i := by
        unfold pick at hst ⊢
        split at hst
        · cases hst
        · rename_i hnot
          exact ⟨hst, if_neg hnot⟩
      rw [hserved.2]
      exact h.served i hi hserved.1
    refine hchange.set fun runner' hafter => ?_
    cases hafter
    refine ⟨⟨⟨after, ?_, rfl, rfl⟩, fun m hm => ?_⟩, occupied_of_idle rfl⟩
    · exact mem_alter.mpr ⟨batch, hmem, by simp⟩
    · obtain ⟨i, hi, rfl⟩ := mem_alter.mp hm
      obtain ⟨hi, hbatch⟩ := mem_itemsFor.mp hi
      refine ⟨?_, pick i, List.mem_map_of_mem hi, ?_⟩
      · split <;> exact hbatch
      · rw [(hpick i).2]
        split <;> rfl

/-- The line of a call that went well has succeeded, and was served. -/
lemma Traced.commitCall (h : Traced w) {r : ℕ} (hr : w.runners r = some runner)
    {item : ListingBatchItem} {call : BatchCall} (hbusy : runner.busy = some (item, .ok call))
    {result : PublishResult} (hresult : call.result = .ok result) :
    Traced { w.set r (some (runner.afterCall call)) with
      data := runner.commitCall w.data call result } := by
  obtain ⟨hcall, hitem, hkind⟩ := h.occupied r runner hr item call hbusy
  obtain ⟨⟨b, hb, hbid, hbkind⟩, hremitems⟩ := h.remembers r runner hr
  obtain ⟨hbatch, row₀, hrow₀, hline₀⟩ := hremitems call.item hitem
  have hgrown : Grown w.data (runner.commitCall w.data call result) := by
    refine ⟨fun b hb => ⟨_, mem_alter.mpr ⟨b, hb, rfl⟩, ?_⟩, fun i hi =>
      ⟨_, mem_alter.mpr ⟨i, hi, rfl⟩, ?_⟩⟩
    · split <;> exact ⟨rfl, rfl⟩
    · split <;> rfl
  have hchange : Traced { w with data := runner.commitCall w.data call result } := by
    refine h.change hgrown (h.items.alter fun _ => rfl) (h.batches.alter fun _ => rfl)
      fun row hrow hst => ?_
    obtain ⟨i, hi, rfl⟩ := mem_alter.mp hrow
    by_cases hid : i.id = call.item.id
    · have hi₀ : i = row₀ := h.items.eq_of_key_eq hi hrow₀
        (hid.trans (congrArg ListingBatchItem.id hline₀ :).symm)
      rw [if_pos hid]
      refine ⟨call, hcall, ?_, by rw [hresult]; rfl, b, hb, ?_, hbkind.trans hkind.symm⟩
      · exact (hline₀.symm.trans (congrArg ListingBatchItem.line hi₀.symm) :)
      · have hsame : row₀.batchId = call.item.batchId :=
          (congrArg ListingBatchItem.batchId hline₀ :)
        rw [hbid, ← hbatch, ← hsame, ← hi₀]
        rfl
    · rw [if_neg hid] at hst ⊢
      exact h.served i hi hst
  refine hchange.set fun after hafter => ?_
  cases hafter
  refine ⟨Remembers.grown ⟨⟨b, hb, hbid, hbkind⟩, fun m hm => ?_⟩ hgrown, occupied_of_idle rfl⟩
  obtain ⟨m', hm', rfl⟩ := mem_alter.mp hm
  by_cases hid : m'.id = (BatchRunner.done call).id
  · rw [if_pos hid]
    exact ⟨hbatch, row₀, hrow₀, hline₀⟩
  · rw [if_neg hid]
    exact hremitems m' hm'

/-- What becomes of the outcome of a line: it is not written, or the line fails, or the call is
committed. -/
lemma settle_cases (w : BatchWorld) (r : ℕ) (fault : Option ServiceError) :
    w.settle r fault = w ∨ ∃ runner item outcome, w.runners r = some runner ∧
      runner.busy = some (item, outcome) ∧
      ((∃ e, w.settle r fault = w.fail r runner item.id e ∧
        ∀ call, outcome = .ok call → ∀ result, call.result = .ok result → fault = none →
          call.kind = .publish ∧
            platformSkuClash w.data call.errand.listing result.platformSkuId = true) ∨
      ∃ call result, outcome = .ok call ∧ call.result = .ok result ∧
        w.settle r fault = { w.set r (some (runner.afterCall call)) with
          data := runner.commitCall w.data call result }) := by
  unfold BatchWorld.settle
  cases hr : w.runners r with
  | none => exact .inl rfl
  | some runner =>
    cases hbusy : runner.busy with
    | none => exact .inl (by simp only [hbusy])
    | some busy =>
      obtain ⟨item, outcome⟩ := busy
      refine .inr ⟨runner, item, outcome, rfl, hbusy, ?_⟩
      simp only [hbusy]
      cases outcome with
      | error e => exact .inl ⟨e, rfl, fun _ h => by cases h⟩
      | ok call =>
        cases hresult : call.result with
        | error e =>
          refine .inl ⟨e, by simp only [hresult], fun call' h result h' => ?_⟩
          cases h
          rw [hresult] at h'
          cases h'
        | ok result =>
          cases fault with
          | some e => exact .inl ⟨e, by simp only [hresult], fun _ _ _ _ h => by cases h⟩
          | none =>
            simp only [hresult]
            split
            · rename_i hclash
              refine .inl ⟨_, rfl, fun call' h result' h' _ => ?_⟩
              cases h
              rw [hresult] at h'
              cases h'
              exact hclash
            · exact .inr ⟨call, result, rfl, hresult, rfl⟩

lemma Traced.settle (h : Traced w) (r : ℕ) (fault : Option ServiceError) :
    Traced (w.settle r fault) := by
  rcases settle_cases w r fault with hsame | ⟨runner, item, outcome, hr, hbusy, hsettled⟩
  · rw [hsame]
    exact h
  rcases hsettled with ⟨e, hfail, -⟩ | ⟨call, result, rfl, hresult, hcommit⟩
  · rw [hfail]
    exact h.fail r runner item.id e
  · rw [hcommit]
    exact h.commitCall hr hbusy hresult

lemma Traced.finish (h : Traced w) (r : ℕ) : Traced (w.finish r) := by
  unfold BatchWorld.finish
  cases hr : w.runners r with
  | none => exact h
  | some runner =>
    cases hbusy : runner.busy with
    | some _ => simpa only [hbusy] using h
    | none =>
      cases hpending : runner.pending with
      | some _ => simpa only [hbusy, hpending] using h
      | none =>
        simp only [hbusy, hpending]
        let d' : Db := { w.data with
          batches := alter ListingBatch.id runner.batch.id
            (writeBatch runner.batch (applyCounts runner.batch runner.items false))
            w.data.batches }
        have hgrown : Grown w.data d' := by
          refine ⟨fun b hb => ⟨_, mem_alter.mpr ⟨b, hb, rfl⟩, ?_⟩, fun i hi => ⟨i, hi, rfl⟩⟩
          split <;> exact ⟨rfl, rfl⟩
        have hbatches : Keyed ListingBatch.id d'.batches := h.batches.alter fun _ => rfl
        exact (h.change hgrown h.items hbatches h.served).set fun _ hafter => by cases hafter

/-- The ids of a new batch are new. -/
def Proper (w : BatchWorld) : BatchEvent → Prop
  | .publish _ l | .prices _ l => Unassigned l w.data ∧ Keyed Listing.id w.data.listings
  | _ => True

lemma Traced.next (h : Traced w) (event : BatchEvent) (hproper : Proper w event) :
    Traced (w.next event) := by
  have hstaged : ∀ {d'}, Staged w.data d' → Traced { w with data := d' } := fun hs =>
    h.change hs.grown hs.items hs.batches fun row hrow hst => h.served row (hs.succeeded row hrow hst) hst
  have hself : Keyed Listing.id w.data.listings → Staged w.data w.data := fun hl =>
    ⟨.refl _, h.items, h.batches, hl, .refl _, fun _ hi _ => hi⟩
  cases event with
  | publish payload l => exact hstaged (staged_publish hproper.1 (hself hproper.2) payload)
  | prices payload l => exact hstaged (staged_prices hproper.1 (hself hproper.2) payload)
  | elsewhere d =>
    have hgrown : Grown w.data
        { d with batches := w.data.batches, batchItems := w.data.batchItems } :=
      ⟨fun b hb => ⟨b, hb, rfl, rfl⟩, fun i hi => ⟨i, hi, rfl⟩⟩
    exact h.change hgrown h.items h.batches h.served
  | start r kind batchId => exact h.start r kind batchId
  | send r gate answer => exact h.send r gate answer
  | settle r fault => exact h.settle r fault
  | finish r => exact h.finish r
  | crash r => exact h.set fun _ hafter => by cases hafter

end traced

/-! ### Listings that wait for their batch -/

/-- A platform has published the listing. -/
def publishes (listingId : ℕ) (call : BatchCall) : Bool :=
  call.kind = .publish && call.answer.isOk && call.errand.listing.id = listingId

/-- The line finds its listing as it was when it was accepted: not linked, and with its price. -/
def BatchCall.Timely (call : BatchCall) : Prop :=
  call.kind = .publish → call.errand.listing.status ≠ .linked ∧
    call.errand.listing.price = call.item.priceAfter ∧
    call.errand.listing.currency = call.item.currencyAfter

/-- The run `r` is at a call. -/
def BatchWorld.At (w : BatchWorld) (r : ℕ) (call : BatchCall) : Prop :=
  ∃ runner item, w.runners r = some runner ∧ runner.busy = some (item, .ok call)

/-- A line to publish is sent only while its listing waits for it, no other run is about to publish
the listing, what a platform has published gets committed, and nobody unlinks a listing. -/
def InTurn (w : BatchWorld) : BatchEvent → Prop
  | .send r gate answer => ∀ call, (w.send r gate answer).calls = w.calls ++ [call] →
      call.Timely ∧ (call.kind = .publish → ∀ r' call', w.At r' call' → call'.kind = .publish →
        call'.errand.listing.id ≠ call.errand.listing.id)
  | .settle r fault => ∀ call, w.At r call → call.kind = .publish → ∀ result,
      call.answer = .ok result →
        fault = none ∧ platformSkuClash w.data call.errand.listing result.platformSkuId = false
  | .crash r => ∀ call, w.At r call → call.kind = .publish → call.answer.isOk = false
  | .elsewhere d => Keyed Listing.id d.listings ∧ KeepsListings w.data d
  | _ => True

/-- The listing is linked. -/
def Linked (d : Db) (listingId : ℕ) : Prop :=
  ∃ l ∈ d.listings, l.id = listingId ∧ l.status = .linked

/-- What is kept as long as the listings wait. -/
structure PublishedOnce (w : BatchWorld) : Prop where
  traced : Traced w
  listings : Keyed Listing.id w.data.listings
  timely : ∀ call ∈ w.calls, call.Timely
  there : ∀ r call, w.At r call → call.kind = .publish →
    ∃ l ∈ w.data.listings, l.id = call.errand.listing.id
  published : ∀ listingId, w.calls.countP (publishes listingId) = 0 ∨
    w.calls.countP (publishes listingId) = 1 ∧
      (Linked w.data listingId ∨ ∃ r call, w.At r call ∧ publishes listingId call)

section once

variable {w w' : BatchWorld} {r : ℕ} {after : Option BatchRunner} {call : BatchCall}

lemma publishes_iff {listingId : ℕ} : publishes listingId call = true ↔
    call.kind = .publish ∧ call.answer.isOk = true ∧ call.errand.listing.id = listingId := by
  simp only [publishes, Bool.and_eq_true, decide_eq_true_eq, and_assoc]

lemma Linked.keeps {d d' : Db} {listingId : ℕ} (h : Linked d listingId) (hk : KeepsListings d d') :
    Linked d' listingId := by
  obtain ⟨l, hl, hid, hlinked⟩ := h
  obtain ⟨l', hl', hid', hkeep⟩ := hk l hl
  exact ⟨l', hl', hid'.trans hid, hkeep hlinked⟩

lemma at_set_of_ne {r' : ℕ} (hne : r' ≠ r) : (w.set r after).At r' call ↔ w.At r' call := by
  simp [BatchWorld.At, BatchWorld.set, Function.update_of_ne hne]

/-- A run that is idle or over is at no call. -/
lemma at_set {r' : ℕ} (hidle : ∀ runner, after = some runner → runner.busy = none)
    (h : (w.set r after).At r' call) : r' ≠ r ∧ w.At r' call := by
  have hne : r' ≠ r := by
    rintro rfl
    obtain ⟨runner, item, hr, hbusy⟩ := h
    simp only [BatchWorld.set, Function.update_self] at hr
    rw [hidle runner hr] at hbusy
    cases hbusy
  exact ⟨hne, (at_set_of_ne hne).mp h⟩

/-- A call to publish has told the platform. -/
lemma BatchCall.Sends.result_eq {row : ListingBatchItem} (h : call.Sends row)
    (hkind : call.kind = .publish) : call.result = call.answer := by
  unfold Sends at h
  rw [hkind] at h
  obtain ⟨title, price, currency, -, -, hmessage⟩ := h
  simp [result, hmessage]

/-- A run leaves its call, if it has one, and the others go on. -/
lemma PublishedOnce.leave (h : PublishedOnce w) (htraced : Traced w')
    (hlistings : Keyed Listing.id w'.data.listings) (hcalls : w'.calls = w.calls)
    (hkeeps : KeepsListings w.data w'.data) (hat : ∀ r' call, w'.At r' call → w.At r' call)
    (hstay : ∀ r' call, r' ≠ r → w.At r' call → w'.At r' call)
    (hdone : ∀ call, w.At r call → ∀ listingId, publishes listingId call →
      Linked w'.data listingId) : PublishedOnce w' := by
  refine ⟨htraced, hlistings, hcalls ▸ h.timely, fun r' call hcall hkind => ?_, fun listingId => ?_⟩
  · obtain ⟨l, hl, hid⟩ := h.there r' call (hat r' call hcall) hkind
    obtain ⟨l', hl', hid', -⟩ := hkeeps l hl
    exact ⟨l', hl', hid'.trans hid⟩
  · rw [hcalls]
    rcases h.published listingId with hzero | ⟨hone, hlinked | ⟨r', call, hcall, hpub⟩⟩
    · exact .inl hzero
    · exact .inr ⟨hone, .inl (hlinked.keeps hkeeps)⟩
    · by_cases hr : r' = r
      · exact .inr ⟨hone, .inl (hdone call (hr ▸ hcall) listingId hpub)⟩
      · exact .inr ⟨hone, .inr ⟨r', call, hstay r' call hr hcall, hpub⟩⟩

lemma PublishedOnce.fail (h : PublishedOnce w) {runner : BatchRunner} (itemId : ℕ)
    (e : ServiceError) (hdone : ∀ call, w.At r call → ∀ listingId, publishes listingId call = false) :
    PublishedOnce (w.fail r runner itemId e) := by
  have hidle : ∀ after, (runner.markFailed w.data itemId e).2 = some after → after.busy = none := by
    intro after hafter
    unfold BatchRunner.markFailed at hafter
    split at hafter
    · cases hafter
    · cases hafter
      rfl
  have hrows : (runner.markFailed w.data itemId e).1.listings = w.data.listings := by
    unfold BatchRunner.markFailed
    split <;> rfl
  have hkeeps : KeepsListings w.data (w.fail r runner itemId e).data := by
    intro l hl
    exact ⟨l, hrows.symm ▸ hl, rfl, id⟩
  have hkeyed : Keyed Listing.id (w.fail r runner itemId e).data.listings := by
    change Keyed Listing.id (runner.markFailed w.data itemId e).1.listings
    rw [hrows]
    exact h.listings
  refine h.leave (h.traced.fail r runner itemId e) hkeyed rfl hkeeps
    (fun r' call hcall => (at_set hidle hcall).2) (fun r' call hne hcall => (at_set_of_ne hne).mpr hcall)
    fun call hcall listingId hpub => ?_
  rw [hdone call hcall listingId] at hpub
  cases hpub

/-- The listing of a call that went well is linked. -/
lemma PublishedOnce.commitCall (h : PublishedOnce w) {runner : BatchRunner}
    (hr : w.runners r = some runner) {item : ListingBatchItem}
    (hbusy : runner.busy = some (item, .ok call)) {result : PublishResult}
    (hresult : call.result = .ok result) :
    PublishedOnce { w.set r (some (runner.afterCall call)) with
      data := runner.commitCall w.data call result } := by
  obtain ⟨hmem, -, -⟩ := h.traced.occupied r runner hr item call hbusy
  have hid : ∀ l, (writeListing call.errand.listing
      (listingAfter call.kind call.item result call.errand.listing) l).id = l.id := fun _ => rfl
  have hkeep : ∀ l, l.status = .linked → (writeListing call.errand.listing
      (listingAfter call.kind call.item result call.errand.listing) l).status = .linked := by
    intro l hl
    cases hkind : call.kind with
    | publish =>
      by_cases hst : call.errand.listing.status = .linked
      · simp [writeListing, listingAfter, writeBack, hst, hl]
      · simp [writeListing, listingAfter, writeBack, Ne.symm hst]
    | price => simp [writeListing, listingAfter, writeBack, hl]
  have hkeeps : KeepsListings w.data (runner.commitCall w.data call result) := by
    intro l hl
    refine ⟨_, mem_alter.mpr ⟨l, hl, rfl⟩, ?_⟩
    split
    · exact ⟨hid l, hkeep l⟩
    · exact ⟨rfl, fun h => h⟩
  have hidle : ∀ after, some (runner.afterCall call) = some after → after.busy = none := by
    intro after hafter
    cases hafter
    rfl
  refine h.leave (h.traced.commitCall hr hbusy hresult) (h.listings.alter hid) rfl hkeeps
    (fun r' call' hcall => (at_set hidle hcall).2)
    (fun r' call' hne hcall => (at_set_of_ne hne).mpr hcall) fun call' hcall listingId hpub => ?_
  obtain ⟨hkind, -, hlisting⟩ := publishes_iff.mp hpub
  obtain ⟨l, hl, hlid⟩ := h.there r call' hcall hkind
  obtain ⟨runner', item', hr', hbusy'⟩ := hcall
  rw [hr] at hr'
  cases hr'
  rw [hbusy] at hbusy'
  cases hbusy'
  obtain ⟨hopen, -⟩ := h.timely call hmem hkind
  refine ⟨_, mem_alter.mpr ⟨l, hl, rfl⟩, ?_⟩
  rw [if_pos hlid]
  refine ⟨hlid.trans hlisting, ?_⟩
  simp [writeListing, listingAfter, writeBack, hkind, Ne.symm hopen]

lemma PublishedOnce.send (h : PublishedOnce w) {gate : Except ServiceError (String × Option String)}
    {answer : Except ServiceError PublishResult} (hturn : InTurn w (.send r gate answer)) :
    PublishedOnce (w.send r gate answer) := by
  have htraced := h.traced.send r gate answer
  rcases send_cases w r gate answer with hsame | ⟨runner, item, hr, hbusy, -, hsent⟩
  · rw [hsame]
    exact h
  -- before this the run is at no call
  have hfree : ∀ call, ¬w.At r call := by
    rintro call ⟨runner', item', hr', hbusy'⟩
    rw [hr] at hr'
    cases hr'
    rw [hbusy] at hbusy'
    cases hbusy'
  rcases hsent with ⟨e, hsent⟩ | ⟨call, rfl, -, -, herrand, hsent⟩
  · rw [hsent] at htraced ⊢
    refine h.leave htraced h.listings rfl (.refl _) (fun r' call hcall => ?_)
      (fun r' call hne hcall => (at_set_of_ne hne).mpr hcall) fun call hcall => absurd hcall (hfree call)
    by_cases hne : r' = r
    · subst hne
      obtain ⟨runner', item', hr', hbusy'⟩ := hcall
      simp only [BatchWorld.set, Function.update_self, Option.some.injEq] at hr'
      subst hr'
      cases hbusy'
    · exact (at_set_of_ne hne).mp hcall
  · obtain ⟨htimely, halone⟩ := hturn call (by rw [hsent])
    rw [hsent] at htraced ⊢
    have hat : ∀ r' call', (BatchWorld.mk w.data (Function.update w.runners r
        (some { runner with busy := some (call.item, .ok call) })) (w.calls ++ [call])).At r' call' →
        call' = call ∨ w.At r' call' := by
      rintro r' call' ⟨runner', item', hr', hbusy'⟩
      by_cases hne : r' = r
      · subst hne
        simp only [Function.update_self, Option.some.injEq] at hr'
        subst hr'
        cases hbusy'
        exact .inl rfl
      · simp only [Function.update_of_ne hne] at hr'
        exact .inr ⟨runner', item', hr', hbusy'⟩
    have hmem : call.kind = .publish → call.errand.listing ∈ w.data.listings := by
      intro hkind
      rw [hkind] at herrand
      exact (publishErrand_ok herrand).1
    have hstay : ∀ r' call', w.At r' call' → (BatchWorld.mk w.data (Function.update w.runners r
        (some { runner with busy := some (call.item, .ok call) })) (w.calls ++ [call])).At r' call' := by
      rintro r' call' ⟨runner', item', hr', hbusy'⟩
      have hne : r' ≠ r := by
        rintro rfl
        exact hfree call' ⟨runner', item', hr', hbusy'⟩
      exact ⟨runner', item', by simpa only [Function.update_of_ne hne] using hr', hbusy'⟩
    refine ⟨htraced, h.listings, fun call' hcall => ?_, fun r' call' hcall hkind => ?_,
      fun listingId => ?_⟩
    · rcases List.mem_append.mp hcall with hold | hnew
      · exact h.timely call' hold
      · rw [List.mem_singleton.mp hnew]
        exact htimely
    · rcases hat r' call' hcall with rfl | hcall
      · exact ⟨_, hmem hkind, rfl⟩
      · exact h.there r' call' hcall hkind
    · rw [List.countP_append, List.countP_singleton]
      by_cases hpub : publishes listingId call = true
      · rw [if_pos hpub]
        obtain ⟨hkind, -, hlisting⟩ := publishes_iff.mp hpub
        rcases h.published listingId with hzero | ⟨-, ⟨l, hl, hid, hlinked⟩ | ⟨r', call', hcall, hpub'⟩⟩
        · exact .inr ⟨by rw [hzero], .inr ⟨r, call,
            ⟨{ runner with busy := some (call.item, .ok call) }, call.item,
              Function.update_self .., rfl⟩, hpub⟩⟩
        · -- the listing waits, so it is not linked
          rw [h.listings.eq_of_key_eq hl (hmem hkind) (hid.trans hlisting.symm)] at hlinked
          exact absurd hlinked (htimely hkind).1
        · obtain ⟨hkind', -, hlisting'⟩ := publishes_iff.mp hpub'
          exact absurd (hlisting'.trans hlisting.symm) (halone hkind r' call' hcall hkind')
      · rw [if_neg hpub, Nat.add_zero]
        rcases h.published listingId with hzero | ⟨hone, hlinked | ⟨r', call', hcall, hpub'⟩⟩
        · exact .inl hzero
        · exact .inr ⟨hone, .inl hlinked⟩
        · exact .inr ⟨hone, .inr ⟨r', call', hstay r' call' hcall, hpub'⟩⟩

/-- A run that begins is at no call. -/
lemma at_start {r' : ℕ} {kind : BatchKind} {batchId : ℕ}
    (h : (w.start r kind batchId).At r' call) : w.At r' call := by
  unfold BatchWorld.start at h
  split at h
  · split at h
    · exact h
    · refine (at_set (fun after hafter => ?_) h).2
      cases hafter
      rfl
  · exact h

lemma PublishedOnce.start (h : PublishedOnce w) (r : ℕ) (kind : BatchKind) (batchId : ℕ) :
    PublishedOnce (w.start r kind batchId) := by
  have htraced := h.traced.start r kind batchId
  have hat : ∀ r' call, (w.start r kind batchId).At r' call → w.At r' call := fun _ _ => at_start
  unfold BatchWorld.start at htraced hat ⊢
  split
  · rename_i batch hr hfind
    split
    · exact h
    · rename_i hrunning
      rw [hr, hfind] at htraced hat
      simp only [if_neg hrunning] at htraced hat
      refine h.leave htraced h.listings rfl (.refl _) hat
        (fun r' call hne hcall => (at_set_of_ne hne).mpr hcall) fun call hcall => ?_
      obtain ⟨runner, item, hrunner, -⟩ := hcall
      rw [hr] at hrunner
      cases hrunner
  · exact h

lemma PublishedOnce.settle (h : PublishedOnce w) {fault : Option ServiceError}
    (hturn : InTurn w (.settle r fault)) : PublishedOnce (w.settle r fault) := by
  rcases settle_cases w r fault with hsame | ⟨runner, item, outcome, hr, hbusy, hsettled⟩
  · rw [hsame]
    exact h
  rcases hsettled with ⟨e, hfail, hnot⟩ | ⟨call, result, rfl, hresult, hcommit⟩
  · rw [hfail]
    refine h.fail item.id e fun call hcall listingId => ?_
    rw [Bool.eq_false_iff]
    intro hpub
    obtain ⟨hkind, hok, -⟩ := publishes_iff.mp hpub
    -- what the platform has accepted gets committed
    cases hanswer : call.answer with
    | error e' =>
      rw [hanswer] at hok
      cases hok
    | ok result =>
      obtain ⟨hfault, hclash⟩ := hturn call hcall hkind result hanswer
      obtain ⟨runner', item', hr', hbusy'⟩ := hcall
      rw [hr] at hr'
      cases hr'
      rw [hbusy] at hbusy'
      cases hbusy'
      have hmem := (h.traced.occupied r runner hr item call hbusy).1
      have hresult := ((h.traced.sends call hmem).result_eq hkind).trans hanswer
      rw [(hnot call rfl result hresult hfault).2] at hclash
      cases hclash
  · rw [hcommit]
    exact h.commitCall hr hbusy hresult

lemma PublishedOnce.finish (h : PublishedOnce w) (r : ℕ) : PublishedOnce (w.finish r) := by
  have htraced := h.traced.finish r
  unfold BatchWorld.finish at htraced ⊢
  cases hr : w.runners r with
  | none => exact h
  | some runner =>
    rw [hr] at htraced
    cases hbusy : runner.busy with
    | some _ => simpa only [hbusy] using h
    | none =>
      cases hpending : runner.pending with
      | some _ => simpa only [hbusy, hpending] using h
      | none =>
        simp only [hbusy, hpending] at htraced ⊢
        refine h.leave htraced h.listings rfl (.refl _) (fun r' call hcall => (at_set ?_ hcall).2)
          (fun r' call hne hcall => (at_set_of_ne hne).mpr hcall) fun call hcall => ?_
        · intro after hafter
          cases hafter
        · obtain ⟨runner', item', hr', hbusy'⟩ := hcall
          rw [hr] at hr'
          cases hr'
          rw [hbusy] at hbusy'
          cases hbusy'

/-- What is kept, whatever happens, as long as it happens in turn. -/
lemma PublishedOnce.next (h : PublishedOnce w) (event : BatchEvent) (hproper : Proper w event)
    (hturn : InTurn w event) : PublishedOnce (w.next event) := by
  have htraced := h.traced.next event hproper
  have hself : Staged w.data w.data :=
    ⟨.refl _, h.traced.items, h.traced.batches, h.listings, .refl _, fun _ hi _ => hi⟩
  have hdata : ∀ {d'}, Traced { w with data := d' } → Keyed Listing.id d'.listings →
      KeepsListings w.data d' → PublishedOnce { w with data := d' } := by
    intro d' htraced' hlistings hkeeps
    exact ⟨htraced', hlistings, h.timely, fun r' call hcall hkind => by
      obtain ⟨l, hl, hid⟩ := h.there r' call hcall hkind
      obtain ⟨l', hl', hid', -⟩ := hkeeps l hl
      exact ⟨l', hl', hid'.trans hid⟩, fun listingId =>
        (h.published listingId).imp_right fun ⟨hone, hwhere⟩ =>
          ⟨hone, hwhere.imp_left fun hlinked => hlinked.keeps hkeeps⟩⟩
  cases event with
  | publish payload l =>
    have hs := staged_publish hproper.1 hself payload
    exact hdata htraced hs.listings hs.keeps
  | prices payload l =>
    have hs := staged_prices hproper.1 hself payload
    exact hdata htraced hs.listings hs.keeps
  | elsewhere d => exact hdata htraced hturn.1 hturn.2
  | start r kind batchId => exact h.start r kind batchId
  | send r gate answer => exact h.send hturn
  | settle r fault => exact h.settle hturn
  | finish r => exact h.finish r
  | crash r =>
    have hidle : ∀ runner, (none : Option BatchRunner) = some runner → runner.busy = none := by
      intro runner hnone
      cases hnone
    refine h.leave htraced h.listings rfl (.refl _) (fun r' call hcall => (at_set hidle hcall).2)
      (fun r' call hne hcall => (at_set_of_ne hne).mpr hcall) fun call hcall listingId hpub => ?_
    obtain ⟨hkind, hok, -⟩ := publishes_iff.mp hpub
    rw [hturn call hcall hkind] at hok
    cases hok

end once

/-! ### What succeeded lines were sent with -/

section runs

variable {d : Db} {w : BatchWorld} {events : List BatchEvent}

/-- Nothing has been accepted yet. -/
def BatchWorld.fresh (d : Db) : BatchWorld := ⟨d, fun _ => none, []⟩

lemma traced_fresh (hbatches : d.batches = []) (hitems : d.batchItems = []) :
    Traced (.fresh d) := by
  constructor
  · simp [BatchWorld.fresh, hitems, Keyed]
  · simp [BatchWorld.fresh, hbatches, Keyed]
  · simp [BatchWorld.fresh]
  · simp [BatchWorld.fresh]
  · simp [BatchWorld.fresh]
  · simp [BatchWorld.fresh, hitems]

lemma publishedOnce_fresh (hbatches : d.batches = []) (hitems : d.batchItems = [])
    (hlistings : Keyed Listing.id d.listings) : PublishedOnce (.fresh d) := by
  refine ⟨traced_fresh hbatches hitems, hlistings, ?_, ?_, ?_⟩
  · simp [BatchWorld.fresh]
  · simp [BatchWorld.fresh, BatchWorld.At]
  · simp [BatchWorld.fresh]

lemma Traced.run (h : Traced w) (hproper : BatchWorld.Along Proper w events) :
    Traced (w.run events) := by
  induction events generalizing w with
  | nil => exact h
  | cons event rest ih => exact ih (h.next event hproper.1) hproper.2

lemma PublishedOnce.run (h : PublishedOnce w) (hproper : BatchWorld.Along Proper w events)
    (hturn : BatchWorld.Along InTurn w events) : PublishedOnce (w.run events) := by
  induction events generalizing w with
  | nil => exact h
  | cons event rest ih => exact ih (h.next event hproper.1 hturn.1) hproper.2 hturn.2

/-- What the platform is told with a line to publish is the price that was accepted for it. -/
lemma BatchCall.Sends.published {call : BatchCall} {row : ListingBatchItem} (h : call.Sends row)
    (hkind : call.kind = .publish) (htimely : call.Timely) (hline : call.item.line = row.line) :
    ∃ title price currency, row.priceAfter = some price ∧ row.currencyAfter = some currency ∧
      call.errand.message = some (.publish row.shopId title row.skuId price currency) := by
  obtain ⟨-, hprice', hcurrency'⟩ := htimely hkind
  have hprice : call.item.priceAfter = row.priceAfter :=
    (congrArg ListingBatchItem.priceAfter hline :)
  have hcurrency : call.item.currencyAfter = row.currencyAfter :=
    (congrArg ListingBatchItem.currencyAfter hline :)
  unfold Sends at h
  rw [hkind] at h
  obtain ⟨title, price, currency, hp, hc, hmessage⟩ := h
  refine ⟨title, price, currency, ?_, ?_, hmessage⟩
  · rw [← hprice, ← hprice', hp]
  · rw [← hcurrency, ← hcurrency', hc]

/-- Every line that has succeeded was served by a call for a batch of its kind: one that changes a
price was sent with its own, unless nobody was to be told, and one to publish with that of the
listing. If the lines to publish find their listings as they were accepted, then they are sent with
their own prices, and no listing is published twice. -/
theorem sent_as_accepted (hbatches : d.batches = []) (hitems : d.batchItems = [])
    (hlistings : Keyed Listing.id d.listings)
    (hproper : BatchWorld.Along Proper (.fresh d) events) :
    let w := (BatchWorld.fresh d).run events
    (∀ row ∈ w.data.batchItems, row.status = .succeeded → ∃ call ∈ w.calls,
      call.item.id = row.id ∧ call.result.isOk ∧ call.Sends row ∧
        ∃ b ∈ w.data.batches, b.id = row.batchId ∧ b.kind = call.kind) ∧
      (BatchWorld.Along InTurn (.fresh d) events →
        (∀ row ∈ w.data.batchItems, row.status = .succeeded →
          ∃ b ∈ w.data.batches, b.id = row.batchId ∧ (b.kind = .publish →
            ∃ call ∈ w.calls, call.item.id = row.id ∧ call.answer.isOk ∧
              ∃ title price currency, row.priceAfter = some price ∧
                row.currencyAfter = some currency ∧
                call.errand.message = some (.publish row.shopId title row.skuId price currency))) ∧
        ∀ listingId, w.calls.countP (publishes listingId) ≤ 1) := by
  intro w
  have htraced : Traced w := (traced_fresh hbatches hitems).run hproper
  refine ⟨fun row hrow hst => ?_, fun hturn => ?_⟩
  · obtain ⟨call, hcall, hline, hok, hbatch⟩ := htraced.served row hrow hst
    exact ⟨call, hcall, (congrArg ListingBatchItem.id hline :), hok,
      (htraced.sends call hcall).congr hline, hbatch⟩
  · have honce : PublishedOnce w := (publishedOnce_fresh hbatches hitems hlistings).run hproper hturn
    refine ⟨fun row hrow hst => ?_, fun listingId => ?_⟩
    · obtain ⟨call, hcall, hline, hok, b, hb, hid, hkind⟩ := htraced.served row hrow hst
      refine ⟨b, hb, hid, fun hpublish => ?_⟩
      rw [hkind] at hpublish
      have hsends := (htraced.sends call hcall).congr hline
      rw [hsends.result_eq hpublish] at hok
      exact ⟨call, hcall, (congrArg ListingBatchItem.id hline :), hok,
        hsends.published hpublish (honce.timely call hcall) hline⟩
    · rcases honce.published listingId with hzero | ⟨hone, -⟩
      · rw [hzero]
        exact Nat.zero_le 1
      · exact hone.le

end runs

/-- A SKU and a shop. The SKU has a draft, or none. -/
def shelf (drafts : List Listing) : Db where
  skus := [{ id := 5 }]
  shops := [{ id := 1, platformCode := "SHOPEE" }]
  listings := drafts

def lister : Session := { ids := fun n => 100 + n }

/-- A batch that publishes the SKU is accepted and run. -/
def publishing : List BatchEvent :=
  [.publish ⟨[5], [1], 9, "CNY"⟩ lister, .start 0 .publish 100,
    .send 0 (.ok ("title", none)) (.ok ⟨"product", "sku"⟩), .settle 0 none, .finish 0]

theorem sent_as_accepted_publishing :
    let w := (BatchWorld.fresh (shelf [])).run publishing
    w.data.batchItems.map (·.status) = [.succeeded] ∧
      ∀ listingId, w.calls.countP (publishes listingId) ≤ 1 := by
  have hproper : BatchWorld.Along Proper (.fresh (shelf [])) publishing := by
    have hids : Function.Injective lister.ids := fun m n hmn => by
      simp only [lister] at hmn
      omega
    refine ⟨⟨⟨hids, ?_, ?_, ?_⟩, ?_⟩, trivial, trivial, trivial, trivial, trivial⟩
    all_goals simp [BatchWorld.fresh, shelf, Keyed]
  refine ⟨by decide +kernel, ?_⟩
  refine ((sent_as_accepted rfl rfl (by simp [shelf, Keyed]) hproper).2 ?_).2
  refine ⟨trivial, trivial, fun call hcall => ⟨fun _ => ?_, fun _ r' call' hat => ?_⟩,
    fun call _ _ result _ => ⟨rfl, ?_⟩, trivial, trivial⟩
  · let w := (BatchWorld.fresh (shelf [])).run (publishing.take 3)
    have hwaits : ∀ call ∈ w.calls, call.errand.listing.status ≠ .linked ∧
        call.errand.listing.price = call.item.priceAfter ∧
        call.errand.listing.currency = call.item.currencyAfter := by decide +kernel
    have hmem : call ∈ w.calls := by
      change w.calls = _ at hcall
      simp [hcall]
    exact hwaits call hmem
  · let w := (BatchWorld.fresh (shelf [])).run (publishing.take 1)
    have hbegun : (w.start 0 .publish 100).At r' call' := hat
    obtain ⟨runner, item, hr, -⟩ := at_start hbegun
    have hidle : w.runners r' = none := rfl
    rw [hidle] at hr
    cases hr
  · let w := (BatchWorld.fresh (shelf [])).run (publishing.take 3)
    have hnew : ∀ l ∈ w.data.listings, l.platformSkuId = none := by decide +kernel
    change platformSkuClash w.data _ _ = false
    simp only [platformSkuClash, List.any_eq_false]
    intro l hl
    simp [hnew l hl]

/-- A draft changes its price, and no platform hears of it. -/
theorem not_sent_draft :
    let w := (BatchWorld.fresh (shelf [{
      id := 7, skuId := 5, shopId := 1, platformSkuId := none, status := .draft }])).run
      [.prices ⟨[7], 9, "CNY", true⟩ lister, .start 0 .price 100,
        .send 0 (.ok ("title", none)) (.ok ⟨"product", "sku"⟩), .settle 0 none, .finish 0]
    w.data.batchItems.map (·.status) = [.succeeded] ∧ w.calls.map (·.errand.message) = [none] := by
  decide +kernel

end CrossPilot
