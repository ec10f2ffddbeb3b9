import CrossPilot.Purchase.OrderRuns
import CrossPilot.Purchase.Postings
import Mathlib.Data.List.DropRight

/-!
# Runs of shipments

Shipments are drafted and posted while the rest of the system goes on. In every state that is reached
the cost of a posted shipment has been shared out once, and the last row of a cost pool averages what
has come since the currency last changed.
-/

namespace CrossPilot

open Transaction Table Prog

namespace Purchasing

open FirstMile (PurchaseRuleError AllocMethod AllocInput AllocOutput)
open LandedCost (quantize landedCodes)
open Decimals (Lot)

/-! ### Drafts -/

/-- The row of a draft. -/
def draftOf (payload : ShipmentCreate) (key : Option String) (id : ℕ) : FirstMileShipment where
  id := id
  purchaseOrderId := payload.purchaseOrderId
  fromWarehouseId := payload.fromWarehouseId
  toWarehouseId := payload.toWarehouseId
  channel := payload.channel
  destinationMarket := payload.destinationMarket
  costTotal := quantize payload.costTotal
  currency := payload.currency
  allocMethod := payload.allocMethod
  storageDays := payload.storageDays
  lines := payload.lines
  idempotencyKey := key

/-- A shipment can be drafted. -/
structure Shippable (d : Db) (payload : ShipmentCreate) : Prop where
  order : ∀ orderId ∈ payload.purchaseOrderId.toList, ∃ o ∈ d.purchaseOrders, o.id = orderId
  warehouses : ∀ warehouseId ∈ payload.fromWarehouseId.toList ++ payload.toWarehouseId.toList,
    Destined d warehouseId
  market : payload.destinationMarket ∈ contentMarkets
  distinct : (payload.lines.map Prod.fst).Nodup
  skus : ∀ line ∈ payload.lines, SkuKept d line.1
  cost_pos : 0 < quantize payload.costTotal

lemma Shippable.lawful {d : Db} {payload : ShipmentCreate} (h : Shippable d payload)
    (key : Option String) (id : ℕ) : ShipmentLawful (draftOf payload key id) :=
  ⟨payload.supported, h.cost_pos, Decimals.fixed_quantize 6 _, payload.lines_ne_nil, h.distinct,
    payload.quantity_pos⟩

/-- The state with another shipment. -/
def drafted (s : WorkState) (row : FirstMileShipment) : WorkState :=
  { s with
    session := { s.session with ids := fun n => s.session.ids (n + 1) }
    data := { s.data with firstMiles := s.data.firstMiles ++ [row] } }

section drafts

variable {s : WorkState} {E : ServiceError → WorkState → Prop} {payload : ShipmentCreate}

/-- A loop of checks passes exactly if all of them do. -/
lemma wp_forEach_checks {β : Type} {xs : List β} {f : β → Work Unit} {P : β → Prop}
    {Q : Unit → WorkState → Prop}
    (hf : ∀ x ∈ xs, (f x).wp (fun _ s' => s' = s ∧ P x) (fun _ _ => ¬ P x) s)
    (hok : (∀ x ∈ xs, P x) → Q () s) (he : ∀ e s', ¬ (∀ x ∈ xs, P x) → E e s') :
    (Prog.forEach xs f).wp Q E s := by
  induction xs with
  | nil => exact hok (by simp)
  | cons x rest ih =>
    rw [Prog.forEach, wp_bind]
    refine wp_mono (hf x (by simp)) (fun _ s' h => ?_) fun e s' hno => he e s' fun h =>
      hno (h x (by simp))
    obtain ⟨rfl, hx⟩ := h
    exact ih (fun y hy => hf y (by simp [hy])) (fun h => hok (List.forall_mem_cons.mpr ⟨hx, h⟩))
      fun e s'' hno => he e s'' fun h => hno fun y hy => h y (by simp [hy])

/-- A draft is refused if what it names is missing or its lines or cost make no sense. -/
lemma wp_draftShipment {key : Option String} {visible : Bool}
    {Q : ShipmentView → WorkState → Prop}
    (hfree : key = none ∨ ∀ x ∈ s.data.firstMiles, x.idempotencyKey ≠ key)
    (hok : Shippable s.data payload → ∀ v, Q v (drafted s (draftOf payload key (s.session.ids 0))))
    (he : ∀ e s', ¬ Shippable s.data payload → E e s') :
    (draftShipment payload key visible).wp Q E s := by
  unfold draftShipment checkShipmentRefs
  simp only [bind_eq]
  rw [wp_bind, wp_bind]
  refine wp_forEach_checks (P := fun orderId => ∃ o ∈ s.data.purchaseOrders, o.id = orderId)
    (fun orderId _ => ?_) (fun horder => ?_) fun e s' hno => he e s' fun h => hno h.order
  · rw [wp_bind]
    exact wp_getOrder (fun o ho hid => ⟨rfl, o, ho, hid⟩) fun hno ⟨o, ho, hid⟩ => hno o ho hid
  refine wp_forEach_checks (P := Destined s.data) (fun warehouseId _ => ?_) (fun hwarehouses => ?_)
    fun e s' hno => he e s' fun h => hno h.warehouses
  · rw [wp_bind]
    exact wp_destination (fun _ _ hdestined => ⟨rfl, hdestined⟩) fun _ _ hno => hno
  by_cases hmarket : payload.destinationMarket ∈ contentMarkets
  swap
  · rw [if_pos hmarket]
    exact he _ _ fun h => hmarket h.market
  by_cases hdistinct : (payload.lines.map Prod.fst).Nodup
  swap
  · rw [if_neg (not_not.mpr hmarket), if_pos hdistinct]
    exact he _ _ fun h => hdistinct h.distinct
  rw [if_neg (not_not.mpr hmarket), if_neg (not_not.mpr hdistinct), wp_bind]
  refine wp_forEach_checks (P := fun line : ℕ × ℤ => SkuKept s.data line.1) (fun line _ => ?_)
    (fun hskus => ?_) fun e s' hno => he e s' fun h => hno h.skus
  · rw [wp_bind]
    exact wp_getSku (fun _ hkept => ⟨rfl, hkept⟩) fun hno => hno
  rw [wp_bind, wp_nextSnowflakeId, wp_bind]
  unfold addShipment
  dsimp only
  by_cases hcost : 0 < quantize payload.costTotal
  swap
  · rw [if_pos (not_lt.mp hcost)]
    exact he _ _ fun h => hcost h.cost_pos
  have hunused : (key.isSome && s.data.firstMiles.any fun x => x.idempotencyKey = key) = false := by
    rcases hfree with rfl | hfree
    · rfl
    · simp only [Bool.and_eq_false_imp, List.any_eq_false, decide_eq_true_eq]
      exact fun _ => hfree
  rw [if_neg (not_le.mpr hcost)]
  simp only [bind_eq, wp_bind, wp_update, hunused, Bool.false_eq_true, if_false, pure_eq, wp_ret]
  exact wp_shipmentView fun v => hok ⟨horder, hwarehouses, hmarket, hdistinct, hskus, hcost⟩ v

/-- A shipment has been taken down under a key. -/
def KeyUsed (d : Db) (key : Option String) : Prop :=
  key.isSome ∧ ∃ x ∈ d.firstMiles, x.idempotencyKey = key

/-- A shipment is drafted once under a key. -/
theorem wp_createShipment {key cleaned : Option String} {visible : Bool}
    {Q : ShipmentView → WorkState → Prop} (hkey : Cleaned key cleaned)
    (hagain : KeyUsed s.data cleaned → ∀ v, Q v s)
    (hok : ¬ KeyUsed s.data cleaned → Shippable s.data payload →
      ∀ v, Q v (drafted s (draftOf payload cleaned (s.session.ids 0))))
    (he : ∀ e s', ¬ KeyUsed s.data cleaned → ¬ Shippable s.data payload → E e s') :
    (createShipment payload key visible).wp Q E s := by
  unfold createShipment
  rw [bind_eq, wp_bind]
  refine wp_cleanKey (fun key' hkey' => ?_) fun e _ hno => absurd hkey (hno cleaned)
  obtain rfl : key' = cleaned := hkey'.stripped.trans hkey.stripped.symm
  rw [bind_eq, wp_bind, wp_select]
  cases hfind : (if key'.isSome then
      s.data.firstMiles.find? fun x => x.idempotencyKey = key' else none) with
  | some existing =>
    split_ifs at hfind with hsome
    exact wp_shipmentView (hagain ⟨hsome, existing, List.mem_of_find?_eq_some hfind,
      by simpa using List.find?_some hfind⟩)
  | none =>
    have hfree : key' = none ∨ ∀ x ∈ s.data.firstMiles, x.idempotencyKey ≠ key' := by
      cases key' with
      | none => exact .inl rfl
      | some k => exact .inr (by simpa using hfind)
    have hno : ¬ KeyUsed s.data key' := by
      rintro ⟨hsome, x, hx, hxkey⟩
      rcases hfree with rfl | hfree
      · cases hsome
      · exact hfree x hx hxkey
    exact wp_draftShipment hfree (hok hno) fun e s' => he e s' hno

end drafts

/-! ### The last row of a cost pool -/

/-- What has come of a SKU. -/
def broughtOf (skuId : ℕ) (came : List Arrival) : List Arrival :=
  came.filter fun a => a.line.skuId = skuId

/-- What has come of a SKU since the currency last changed. -/
def batch (skuId : ℕ) (came : List Arrival) : List Arrival :=
  (broughtOf skuId came).rtakeWhile fun a =>
    (broughtOf skuId came).getLast?.map Arrival.currency = some a.currency

/-- A row averages arrivals in one currency. -/
structure Averaged (pool : SkuCostPool) (as : List Arrival) : Prop where
  currency : ∀ a ∈ as, a.currency = pool.currency
  quantity : pool.quantity = (as.map fun a => a.line.quantity).sum
  unit : ∀ code ∈ landedCodes, pool.unit code =
    (Lot.pileOf 6 (fun a => a.line.quantity) (fun a => a.unit code) as).price
  landed : pool.landedUnit = (Lot.pileOf 6 (fun a => a.line.quantity) Arrival.landed as).price

section pools

variable {pools : List SkuCostPool} {came : List Arrival} {a : Arrival} {pool : SkuCostPool}
  {skuId : ℕ}

lemma latestForSku_append_of_ne (h : pool.skuId ≠ skuId) :
    latestForSku (pools ++ [pool]) skuId = latestForSku pools skuId := by
  unfold latestForSku
  rw [List.filter_append, List.filter_cons_of_neg (by simpa using h), List.filter_nil,
    List.append_nil]

/-- A row with a new id is the last one of its pool. -/
lemma latestForSku_append (h : ∀ p ∈ pools, p.id < pool.id) :
    latestForSku (pools ++ [pool]) pool.skuId = some pool := by
  set rows := (pools ++ [pool]).filter fun p => p.skuId = pool.skuId with hrows
  have hmem : pool ∈ rows.insertionSort fun p q => q.id ≤ p.id := by
    rw [List.mem_insertionSort]
    simp [hrows]
  change (rows.insertionSort fun p q => q.id ≤ p.id).head? = some pool
  cases hsorted : rows.insertionSort fun p q => q.id ≤ p.id with
  | nil => simp [hsorted] at hmem
  | cons first rest =>
    have hfirst : first ∈ rows := by
      rw [← List.mem_insertionSort (fun p q : SkuCostPool => q.id ≤ p.id), hsorted]
      simp
    have hpairwise := List.pairwise_insertionSort (fun p q : SkuCostPool => q.id ≤ p.id) rows
    rw [hsorted] at hmem hpairwise
    rcases List.mem_cons.mp hmem with rfl | hrest
    · rfl
    have hle : pool.id ≤ first.id := List.rel_of_pairwise_cons hpairwise hrest
    rcases List.mem_append.mp (List.mem_filter.mp hfirst).1 with hold | hlast
    · exact absurd (h first hold) (not_lt.mpr hle)
    · rw [List.head?_cons, List.mem_singleton.mp hlast]

lemma broughtOf_append_of_ne (h : a.line.skuId ≠ skuId) :
    broughtOf skuId (came ++ [a]) = broughtOf skuId came := by
  simp [broughtOf, h]

lemma broughtOf_append (h : a.line.skuId = skuId) :
    broughtOf skuId (came ++ [a]) = broughtOf skuId came ++ [a] := by
  simp [broughtOf, h]

lemma batch_append_of_ne (h : a.line.skuId ≠ skuId) :
    batch skuId (came ++ [a]) = batch skuId came := by
  unfold batch
  rw [broughtOf_append_of_ne h]

/-- The batch goes on in the same currency. -/
lemma batch_append {b : Arrival} (h : a.line.skuId = skuId)
    (hlast : (broughtOf skuId came).getLast? = some b) (hcurrency : b.currency = a.currency) :
    batch skuId (came ++ [a]) = batch skuId came ++ [a] := by
  unfold batch
  rw [broughtOf_append h, List.getLast?_concat, hlast, List.rtakeWhile_concat_pos _ _ _ (by simp)]
  simp [hcurrency]

/-- Another currency begins another batch. -/
lemma batch_append_of_currency (h : a.line.skuId = skuId)
    (hlast : ∀ b ∈ (broughtOf skuId came).getLast?, b.currency ≠ a.currency) :
    batch skuId (came ++ [a]) = [a] := by
  unfold batch
  rw [broughtOf_append h, List.getLast?_concat, List.rtakeWhile_concat_pos _ _ _ (by simp)]
  have hnil : (broughtOf skuId came).rtakeWhile (fun b =>
      ((some a).map Arrival.currency = some b.currency : Bool)) = [] := by
    rw [List.rtakeWhile_eq_nil_iff]
    intro hne hsame
    apply hlast ((broughtOf skuId came).getLast hne) (List.getLast?_eq_getLast_of_ne_nil hne)
    simpa [eq_comm] using hsame
  rw [hnil, List.nil_append]

lemma pileOf_append (price : Arrival → ℚ) (as : List Arrival) :
    Lot.pileOf 6 (fun a => a.line.quantity) price (as ++ [a]) =
      Lot.merge 6 (Lot.pileOf 6 (fun a => a.line.quantity) price as) ⟨a.line.quantity, price a⟩ := by
  simp [Lot.pileOf]

/-- The first arrival of a batch. -/
lemma Averages.first (h : Averages none a pool) : Averaged pool [a] := by
  refine ⟨by simp [h.currency], ?_, fun code hcode => ?_, ?_⟩
  · simpa [held] using h.quantity
  · rw [h.unit code hcode]
    rfl
  · rw [h.landed]
    rfl

/-- Another arrival of a batch. -/
lemma Averages.next {p : SkuCostPool} {as : List Arrival} (h : Averages (some p) a pool)
    (hp : Averaged p as) (hcurrency : p.currency = a.currency) : Averaged pool (as ++ [a]) := by
  have hheld (price : SkuCostPool → ℚ) (of : Arrival → ℚ)
      (hprice : price p = (Lot.pileOf 6 (fun a => a.line.quantity) of as).price) :
      held (some p) price = Lot.pileOf 6 (fun a => a.line.quantity) of as := by
    have hquantity := hp.quantity
    rw [← Lot.quantity_pileOf (k := 6) of] at hquantity
    change Lot.mk p.quantity (price p) = _
    rw [hquantity, hprice]
  refine ⟨fun b hb => ?_, ?_, fun code hcode => ?_, ?_⟩
  · rw [h.currency]
    rcases List.mem_append.mp hb with hold | hlast
    · rw [hp.currency b hold, hcurrency]
    · rw [List.mem_singleton.mp hlast]
  · rw [h.quantity, List.map_append, List.sum_append, ← hp.quantity]
    simp [held]
  · rw [h.unit code hcode, pileOf_append, hheld _ _ (hp.unit code hcode)]
  · rw [h.landed, pileOf_append, hheld _ _ hp.landed]

/-- What the last row of a cost pool says. -/
structure LastRow (pools : List SkuCostPool) (came : List Arrival) (skuId : ℕ) : Prop where
  currency : (latestForSku pools skuId).map SkuCostPool.currency =
    (broughtOf skuId came).getLast?.map Arrival.currency
  averaged : ∀ pool ∈ latestForSku pools skuId, Averaged pool (batch skuId came)

/-- The last row averages what has come since the currency last changed. -/
theorem Piled.lastRow (h : Piled [] came pools) (skuId : ℕ) : LastRow pools came skuId := by
  induction h with
  | start => exact ⟨rfl, by simp [latestForSku]⟩
  | @more came pools a pool _ haverages hids ih =>
    by_cases hsku : a.line.skuId = skuId
    swap
    · have hother : pool.skuId ≠ skuId := haverages.skuId ▸ hsku
      refine ⟨?_, ?_⟩
      · rw [latestForSku_append_of_ne hother, broughtOf_append_of_ne hsku]
        exact ih.currency
      · rw [latestForSku_append_of_ne hother, batch_append_of_ne hsku]
        exact ih.averaged
    subst hsku
    have hlatest : latestForSku (pools ++ [pool]) a.line.skuId = some pool := by
      rw [← haverages.skuId]
      exact latestForSku_append hids
    refine ⟨?_, ?_⟩
    · rw [hlatest, broughtOf_append rfl, List.getLast?_concat]
      exact congrArg some haverages.currency
    rw [hlatest]
    intro row hrow
    obtain rfl := Option.mem_some_iff.mp hrow
    cases hprevious : previousOf pools a with
    | none =>
      rw [hprevious] at haverages
      rw [batch_append_of_currency rfl fun b hb hsame => ?_]
      · exact haverages.first
      -- the row of `b` would be averaged
      have hcurrency := ih.currency
      rw [hb, Option.map_some] at hcurrency
      obtain ⟨p, hp, hpb⟩ := Option.map_eq_some_iff.mp hcurrency
      have hno := Option.filter_eq_none_iff.mp hprevious p hp
      simp only [decide_eq_true_eq] at hno
      apply hno
      rw [hpb, hsame]
      exact Text.strip_strip _
    | some p =>
      rw [hprevious] at haverages
      obtain ⟨hp, hsame⟩ := Option.filter_eq_some_iff.mp hprevious
      simp only [decide_eq_true_eq] at hsame
      have hcurrency := ih.currency
      rw [hp, Option.map_some] at hcurrency
      obtain ⟨b, hb, hpb⟩ := Option.map_eq_some_iff.mp hcurrency.symm
      have hstrip : Text.strip p.currency = p.currency := by
        rw [← hpb]
        exact Text.strip_strip _
      rw [hstrip] at hsame
      rw [batch_append rfl hb (hpb.trans hsame)]
      exact haverages.next (ih.averaged p hp) hsame

end pools

/-! ### Requests -/

/-- A request about shipments. -/
inductive ShipmentCall
  | create (payload : ShipmentCreate) (key : Option String)
  | post (shipmentId : ℕ) (clock : ℕ → Day)

namespace ShipmentCall

/-- The work of a request. What it answers is shown to the buyer. -/
def work (visible : Bool) : ShipmentCall → Work Unit
  | create payload key => (createShipment payload key visible).map fun _ => ()
  | post shipmentId clock => (postShipment shipmentId clock visible).map fun _ => ()

/-- What comes with a request if it is accepted. -/
def arriving (d : Db) : ShipmentCall → List Arrival
  | create _ _ => []
  | post shipmentId clock =>
    (d.firstMiles.filter fun x => x.id = shipmentId).flatMap fun x =>
      if x.status = .draft then arrivals d x clock else []

/-- What comes with a request. -/
def brings (visible : Bool) (l : Session) (d : Db) (call : ShipmentCall) : List Arrival :=
  if ((call.work visible).exec ⟨l, d, []⟩).1.isOk then call.arriving d else []

end ShipmentCall

/-- A worker with a new session, whose ids nobody has yet. -/
structure Shipper (l : Session) (d : Db) : Prop where
  seen : l.seen = []
  spare : Spare l d
  ahead : Ahead l d
  unused : ∀ n, ∀ x ∈ d.firstMiles, x.id ≠ l.ids n

/-- A run that begins with `d₀`, with what has come. The others leave the tables of shipments alone. -/
inductive ShipmentRun (d₀ : Db) : List Arrival → Db → Prop
  | start : ShipmentRun d₀ [] d₀
  | request {came : List Arrival} {d : Db} (call : ShipmentCall) (visible : Bool) (l : Session) :
    ShipmentRun d₀ came d → Shipper l d →
    ShipmentRun d₀ (came ++ call.brings visible l d) ((call.work visible).commit l d)
  | elsewhere {came : List Arrival} {d d' : Db} : ShipmentRun d₀ came d →
    Shelf d'.inventories → Priced d' → d'.firstMiles = d.firstMiles →
    d'.costAllocations = d.costAllocations → d'.costPools = d.costPools → ShipmentRun d₀ came d'

/-- Nothing has been shipped yet. -/
structure Unshipped (d : Db) : Prop where
  shelf : Shelf d.inventories
  priced : Priced d
  shipments : d.firstMiles = []
  allocations : d.costAllocations = []
  pools : d.costPools = []

/-- What has come of a shipment. -/
def broughtBy (shipmentId : ℕ) (came : List Arrival) : List Arrival :=
  came.filter fun a => a.shipment.id = shipmentId

/-- What a run keeps. -/
structure Stored (came : List Arrival) (d : Db) : Prop where
  shelf : Shelf d.inventories
  priced : Priced d
  keyed : Keyed FirstMileShipment.id d.firstMiles
  shipments : ∀ x ∈ d.firstMiles, ShipmentLawful x
  pools : ∀ pool ∈ d.costPools, PoolLawful pool
  rows : d.costAllocations.map (fun r => { r with id := 0 }) = came.map Arrival.row
  piled : Piled [] came d.costPools
  sound : ∀ a ∈ came, a.Sound
  posted : ∀ x ∈ d.firstMiles, x.status = .posted →
    Arrived { x with status := .draft } (broughtBy x.id came)
  known : ∀ a ∈ came, ∃ x ∈ d.firstMiles, x.id = a.shipment.id ∧ x.status = .posted

/-- What becomes of the shipments of `d`, of the parts of their costs and of the cost pools. -/
structure Onward (d d' : Db) : Prop where
  shipments : ∀ x ∈ d.firstMiles, ∃ x' ∈ d'.firstMiles,
    x' = x ∨ x.status = .draft ∧ x' = { x with status := .posted }
  allocations : d.costAllocations <+: d'.costAllocations
  pools : d.costPools <+: d'.costPools

section runs

variable {d₀ d d' d'' : Db} {came came' : List Arrival} {l : Session} {s s' : WorkState}
  {x : FirstMileShipment} {clock : ℕ → Day}

lemma Onward.refl (d : Db) : Onward d d :=
  ⟨fun x hx => ⟨x, hx, .inl rfl⟩, List.prefix_refl _, List.prefix_refl _⟩

lemma Onward.trans (h : Onward d d') (h' : Onward d' d'') : Onward d d'' := by
  refine ⟨fun x hx => ?_, h.allocations.trans h'.allocations, h.pools.trans h'.pools⟩
  obtain ⟨x', hx', hfirst⟩ := h.shipments x hx
  obtain ⟨x'', hx'', hsecond⟩ := h'.shipments x' hx'
  refine ⟨x'', hx'', ?_⟩
  rcases hsecond with rfl | ⟨hdraft, rfl⟩
  · exact hfirst
  · rcases hfirst with rfl | ⟨-, rfl⟩
    · exact .inr ⟨hdraft, rfl⟩
    · cases hdraft

lemma Piled.grows {pools rows : List SkuCostPool} {as : List Arrival} (h : Piled pools as rows) :
    pools <+: rows := by
  induction h with
  | start => exact List.prefix_refl _
  | more _ _ _ ih => exact ih.trans (List.prefix_append _ _)

lemma onward_drafted (s : WorkState) (x : FirstMileShipment) :
    Onward s.data (drafted s x).data :=
  ⟨fun y hy => ⟨y, List.mem_append_left _ hy, .inl rfl⟩, List.prefix_refl _, List.prefix_refl _⟩

lemma Posted.onward (h : Posted s x clock s') (hkeyed : Keyed FirstMileShipment.id s.data.firstMiles)
    (hx : x ∈ s.data.firstMiles) (hdraft : x.status = .draft) : Onward s.data s'.data := by
  refine ⟨fun y hy => ?_, ?_, h.pools.grows⟩
  · rw [h.shipments]
    by_cases hid : y.id = x.id
    · obtain rfl := hkeyed.eq_of_key_eq hy hx hid
      exact ⟨_, mem_alter_self hx, .inr ⟨hdraft, rfl⟩⟩
    · exact ⟨y, mem_alter_of_ne hy hid, .inl rfl⟩
  · obtain ⟨rows, hrows, -⟩ := h.allocations
    rw [hrows]
    exact List.prefix_append _ _

lemma Priced.congr (h : Priced d) (hskus : d'.skus = d.skus)
    (hitems : d'.purchaseItems = d.purchaseItems) (hrates : d'.exchangeRates = d.exchangeRates)
    (htaxes : d'.taxRules = d.taxRules) (hfees : d'.landedFees = d.landedFees) : Priced d' := by
  obtain ⟨h₁, h₂, h₃, h₄, h₅, h₆⟩ := h
  rw [← hskus] at h₁ h₂
  rw [← hitems] at h₃
  rw [← hrates] at h₄
  rw [← htaxes] at h₅
  rw [← hfees] at h₆
  exact ⟨h₁, h₂, h₃, h₄, h₅, h₆⟩

lemma Unshipped.stored (h : Unshipped d) : Stored [] d := by
  refine ⟨h.shelf, h.priced, ?_, ?_, ?_, ?_, ?_, ?_, ?_, ?_⟩
  · simp [Keyed, h.shipments]
  · simp [h.shipments]
  · simp [h.pools]
  · simp [h.allocations]
  · rw [h.pools]
    exact .start
  · simp
  · simp [h.shipments]
  · simp

lemma Stored.broughtBy_eq_nil (h : Stored came d) (hx : x ∈ d.firstMiles)
    (hdraft : x.status = .draft) : broughtBy x.id came = [] := by
  apply List.filter_eq_nil_iff.mpr
  intro a ha hid
  obtain ⟨y, hy, hya, hposted⟩ := h.known a ha
  obtain rfl := h.keyed.eq_of_key_eq hy hx (hya.trans (of_decide_eq_true hid))
  rw [hdraft] at hposted
  cases hposted

/-- The books of a worker who begins a request. -/
lemma Stored.postbook (h : Stored came d) (hl : Shipper l d) : Postbook ⟨l, d, []⟩ := by
  refine ⟨⟨h.shelf, by simp [hl.seen]⟩, hl.spare, hl.ahead, h.priced, h.keyed, h.shipments, h.pools,
    fun x hx hdraft r hr hid => ?_⟩
  have hrow : { r with id := 0 } ∈ came.map Arrival.row := h.rows ▸ List.mem_map_of_mem hr
  obtain ⟨a, ha, heq⟩ := List.mem_map.mp hrow
  have hshipment : a.shipment.id = r.shipmentId := congrArg FirstMileCostAllocation.shipmentId heq
  have hmem : a ∈ broughtBy x.id came :=
    List.mem_filter.mpr ⟨ha, decide_eq_true (hshipment.trans hid)⟩
  rw [h.broughtBy_eq_nil hx hdraft] at hmem
  cases hmem

/-- A draft comes to those there are. -/
lemma Stored.drafted (h : Stored came s.data) (hx : ShipmentLawful x) (hdraft : x.status = .draft)
    (hnew : ∀ y ∈ s.data.firstMiles, y.id ≠ x.id) : Stored came (drafted s x).data := by
  have hmem : ∀ {y : FirstMileShipment}, y ∈ (Purchasing.drafted s x).data.firstMiles →
      y ∈ s.data.firstMiles ∨ y = x := by
    intro y hy
    simpa [Purchasing.drafted] using hy
  refine ⟨h.shelf, h.priced.congr rfl rfl rfl rfl rfl, h.keyed.append_singleton hnew,
    fun y hy => ?_, h.pools, h.rows, h.piled, h.sound, fun y hy hposted => ?_, fun a ha => ?_⟩
  · rcases hmem hy with hold | rfl
    · exact h.shipments y hold
    · exact hx
  · rcases hmem hy with hold | rfl
    · exact h.posted y hold hposted
    · rw [hdraft] at hposted
      cases hposted
  · obtain ⟨y, hy, hya, hposted⟩ := h.known a ha
    exact ⟨y, List.mem_append_left _ hy, hya, hposted⟩

/-- A posted shipment has come. -/
lemma Stored.posts (h : Stored came s.data) (hx : x ∈ s.data.firstMiles)
    (hdraft : x.status = .draft) (hposted : Posted s x clock s') :
    Stored (came ++ arrivals s.data x clock) s'.data := by
  have hown := hposted.arrived.own
  have hmem : ∀ {y : FirstMileShipment}, y ∈ s'.data.firstMiles →
      y = { x with status := .posted } ∨ y ∈ s.data.firstMiles ∧ y.id ≠ x.id := by
    intro y hy
    rw [hposted.shipments] at hy
    obtain ⟨z, hz, rfl⟩ := mem_alter.mp hy
    by_cases hid : z.id = x.id
    · obtain rfl := h.keyed.eq_of_key_eq hz hx hid
      simp
    · rw [if_neg hid]
      exact .inr ⟨hz, hid⟩
  have hself : { x with status := .posted } ∈ s'.data.firstMiles :=
    hposted.shipments ▸ mem_alter_self hx
  refine ⟨hposted.ready.shelf, ?_, ?_, fun y hy => ?_, hposted.lawful, ?_,
    h.piled.trans hposted.pools, fun a ha => ?_, fun y hy hy' => ?_, fun a ha => ?_⟩
  · rw [hposted.frame]
    exact h.priced.congr rfl rfl rfl rfl rfl
  · rw [hposted.shipments]
    exact h.keyed.alter fun _ => rfl
  · rcases hmem hy with rfl | ⟨hold, -⟩
    · obtain ⟨h₁, h₂, h₃, h₄, h₅, h₆⟩ := h.shipments x hx
      exact ⟨h₁, h₂, h₃, h₄, h₅, h₆⟩
    · exact h.shipments y hold
  · obtain ⟨rows, hrows, hmap⟩ := hposted.allocations
    rw [hrows, List.map_append, List.map_append, h.rows, hmap]
  · rcases List.mem_append.mp ha with hold | hnew
    · exact h.sound a hold
    · exact hposted.arrived.sound a hnew
  · rcases hmem hy with rfl | ⟨hold, hne⟩
    · have hall : broughtBy x.id (came ++ arrivals s.data x clock) = arrivals s.data x clock := by
        unfold broughtBy
        rw [List.filter_append]
        change broughtBy x.id came ++ _ = _
        rw [h.broughtBy_eq_nil hx hdraft, List.nil_append, List.filter_eq_self]
        intro a ha
        simp [hown a ha]
      have hsame : { x with status := FirstMileStatus.draft } = x := by rw [← hdraft]
      change Arrived { x with status := .draft } (broughtBy x.id (came ++ arrivals s.data x clock))
      rw [hall, hsame]
      exact hposted.arrived
    · have hnone : broughtBy y.id (arrivals s.data x clock) = [] := by
        apply List.filter_eq_nil_iff.mpr
        intro a ha hid
        rw [hown a ha] at hid
        exact hne (of_decide_eq_true hid).symm
      unfold broughtBy at hnone ⊢
      rw [List.filter_append, hnone, List.append_nil]
      exact h.posted y hold hy'
  · rcases List.mem_append.mp ha with hold | hnew
    · obtain ⟨y, hy, hya, hy'⟩ := h.known a hold
      have hne : y.id ≠ x.id := by
        intro hid
        obtain rfl := h.keyed.eq_of_key_eq hy hx hid
        rw [hdraft] at hy'
        cases hy'
      exact ⟨y, hposted.shipments ▸ mem_alter_of_ne hy hne, hya, hy'⟩
    · exact ⟨_, hself, by rw [hown a hnew], rfl⟩

/-- A request that fails leaves nothing. -/
lemma commit_of_not_ok {α : Type} {p : Work α} (h : ¬ (p.exec ⟨l, d, []⟩).1.isOk) :
    p.commit l d = d := by
  unfold Prog.commit
  cases hp : p.exec ⟨l, d, []⟩ with
  | mk r s' =>
    rw [hp] at h
    cases r with
    | ok a => exact absurd rfl h
    | error e => rfl

/-- What comes of a request. -/
theorem wp_shipmentWork (call : ShipmentCall) (visible : Bool) (h : Stored came d)
    (hl : Shipper l d) :
    (call.work visible).wp
      (fun _ s' => Stored (came ++ call.arriving d) s'.data ∧ Onward d s'.data)
      (fun _ _ => True) ⟨l, d, []⟩ := by
  cases call with
  | create payload key =>
    rw [ShipmentCall.work, Prog.map, wp_bind, ShipmentCall.arriving, List.append_nil]
    by_cases hkey : ∃ cleaned, Cleaned key cleaned
    · obtain ⟨cleaned, hcleaned⟩ := hkey
      refine wp_createShipment hcleaned (fun _ _ => ⟨h, .refl d⟩) (fun _ hshippable _ => ?_)
        fun _ _ _ _ => trivial
      have hdrafted := h.drafted (s := ⟨l, d, []⟩) (hshippable.lawful cleaned (l.ids 0)) rfl
        fun y hy => hl.unused 0 y hy
      exact ⟨hdrafted, onward_drafted ⟨l, d, []⟩ _⟩
    · unfold createShipment
      rw [bind_eq, wp_bind]
      exact wp_cleanKey (fun cleaned hcleaned => absurd ⟨cleaned, hcleaned⟩ hkey) fun _ _ _ => trivial
  | post shipmentId clock =>
    rw [ShipmentCall.work, Prog.map, wp_bind]
    have hfilter (x : FirstMileShipment) (hx : x ∈ d.firstMiles) (hid : x.id = shipmentId) :
        d.firstMiles.filter (fun y => y.id = shipmentId) = [x] := by
      refine h.keyed.filter_eq_singleton hx (decide_eq_true hid) fun y _ hy => ?_
      rw [of_decide_eq_true hy, hid]
    refine wp_postShipment (h.postbook hl) (fun x hx hid hposted _ => ?_)
      (fun x hx hid hdraft _ _ s' hposted => ?_) fun _ _ _ => trivial
    · rw [ShipmentCall.arriving, hfilter x hx hid]
      exact ⟨by simpa [hposted] using h, .refl d⟩
    · rw [ShipmentCall.arriving, hfilter x hx hid]
      refine ⟨?_, hposted.onward h.keyed hx hdraft⟩
      simpa [hdraft] using h.posts hx hdraft hposted

/-- A request leaves what is stored with what it brings. -/
lemma Stored.request (call : ShipmentCall) (visible : Bool) (h : Stored came d)
    (hl : Shipper l d) :
    Stored (came ++ call.brings visible l d) ((call.work visible).commit l d) ∧
      Onward d ((call.work visible).commit l d) := by
  unfold ShipmentCall.brings
  split_ifs with hok
  · exact commit_of_ok (R := fun d' => Stored (came ++ call.arriving d) d' ∧ Onward d d')
      (wp_shipmentWork call visible h hl) hok
  · rw [List.append_nil, commit_of_not_ok hok]
    exact ⟨h, .refl d⟩

/-- What others do is no matter of the shipments. -/
lemma Stored.elsewhere (h : Stored came d) (hshelf : Shelf d'.inventories) (hpriced : Priced d')
    (hshipments : d'.firstMiles = d.firstMiles) (hallocations : d'.costAllocations = d.costAllocations)
    (hpools : d'.costPools = d.costPools) : Stored came d' ∧ Onward d d' := by
  obtain ⟨-, -, h₁, h₂, h₃, h₄, h₅, h₆, h₇, h₈⟩ := h
  refine ⟨?_, fun x hx => ⟨x, hshipments ▸ hx, .inl rfl⟩, ?_, ?_⟩
  · rw [← hshipments] at h₁ h₂ h₇ h₈
    rw [← hpools] at h₃ h₅
    rw [← hallocations] at h₄
    exact ⟨hshelf, hpriced, h₁, h₂, h₃, h₄, h₅, h₆, h₇, h₈⟩
  · rw [hallocations]
  · rw [hpools]

theorem ShipmentRun.stored (h₀ : Unshipped d₀) (h : ShipmentRun d₀ came d) : Stored came d := by
  induction h with
  | start => exact h₀.stored
  | request call visible l _ hl ih => exact (ih.request call visible hl).1
  | elsewhere _ hshelf hpriced hshipments hallocations hpools ih =>
    exact (ih.elsewhere hshelf hpriced hshipments hallocations hpools).1

lemma ShipmentRun.later (h : Stored came d) (h' : ShipmentRun d came' d') :
    Onward d d' ∧ Stored (came ++ came') d' := by
  induction h' with
  | start => exact ⟨.refl d, by simpa using h⟩
  | request call visible l _ hl ih =>
    obtain ⟨hstored, honward⟩ := ih.2.request call visible hl
    rw [← List.append_assoc]
    exact ⟨ih.1.trans honward, hstored⟩
  | elsewhere _ hshelf hpriced hshipments hallocations hpools ih =>
    obtain ⟨hstored, honward⟩ := ih.2.elsewhere hshelf hpriced hshipments hallocations hpools
    exact ⟨ih.1.trans honward, hstored⟩

end runs

/-! ### Ten pieces abroad -/

/-- All ids of the data are less than `n`. -/
def Beneath (d : Db) (n : ℕ) : Prop :=
  (∀ r ∈ d.inventories, r.id < n) ∧ (∀ x ∈ d.transfers, x.id < n) ∧
    (∀ pool ∈ d.costPools, pool.id < n) ∧ ∀ x ∈ d.firstMiles, x.id < n

instance (d : Db) (n : ℕ) : Decidable (Beneath d n) := by
  unfold Beneath
  infer_instance

lemma Beneath.shipper {d : Db} {n : ℕ} (h : Beneath d n) : Shipper (sessionFrom n) d := by
  have hlt : ∀ {i : ℕ}, i < n → ∀ k, i < n + k := fun hi k => Nat.lt_add_right k hi
  refine ⟨rfl, ⟨fun _ _ => Nat.add_left_cancel, fun k r hr => ?_, fun k x hx => ?_⟩,
    ⟨fun i j hij => Nat.add_lt_add_left hij n, fun pool hpool k => ?_⟩, fun k x hx => ?_⟩
  · exact (hlt (h.1 r hr) k).ne
  · exact (hlt (h.2.1 x hx) k).ne
  · exact hlt (h.2.2.1 pool hpool) k
  · exact (hlt (h.2.2.2 x hx) k).ne

/-- A shop with goods at home and a warehouse abroad, where nothing costs anything on arrival but the
goods and the way. -/
def harbour : Db where
  warehouses := [{ id := 1 }, { id := 5, warehouseType := .overseas }]
  inventories := [{ id := 10, skuId := 3, warehouseId := 1, available := 20 }]
  skus := [{ id := 3, purchasePrice := some 5, currency := some "USD" }]
  lineToggles := [.duty, .importTax, .brokerage, .storage, .fxReserve].map fun code =>
    { market := "US", channel := .any, lineCode := code, enabled := false }

def tenAbroad : ShipmentCreate where
  channel := .air
  destinationMarket := "US"
  costTotal := 7
  currency := "USD"
  allocMethod := .weight
  fromWarehouseId := some 1
  toWarehouseId := some 5
  lines := [(3, 10)]
  channel_real := by decide
  costTotal_pos := by decide
  supported := rfl
  quantity_pos := by decide
  lines_ne_nil := by decide

/-- Every day is the same. -/
def sameDay (_ : ℕ) : Day := 0

/-- The shipment is drafted and posted. -/
def loadedHarbour : Db :=
  ((ShipmentCall.create tenAbroad (some "k")).work true).commit (sessionFrom 100) harbour

def shippedHarbour : Db :=
  ((ShipmentCall.post 100 sameDay).work true).commit (sessionFrom 200) loadedHarbour

lemma unshipped_harbour : Unshipped harbour := by
  refine ⟨⟨by simp [Keyed, harbour], by simp [Keyed, harbour], by simp [harbour], by simp [harbour],
    by simp [harbour], by simp [harbour]⟩, ⟨?_, ?_, ?_, ?_, ?_, ?_⟩, rfl, rfl, rfl⟩
  all_goals simp [harbour, Sku.volume]

/-- What comes with it. -/
def cameAbroad : List Arrival :=
  (ShipmentCall.post 100 sameDay).brings true (sessionFrom 200) loadedHarbour

lemma run_loadedHarbour : ShipmentRun harbour [] loadedHarbour := by
  have h := ShipmentRun.request (.create tenAbroad (some "k")) true (sessionFrom 100)
    (.start : ShipmentRun harbour [] harbour) (Beneath.shipper (by decide))
  unfold loadedHarbour
  simpa [ShipmentCall.brings, ShipmentCall.arriving] using h

lemma shipper_loadedHarbour : Shipper (sessionFrom 200) loadedHarbour :=
  Beneath.shipper (by decide +kernel)

lemma run_shippedHarbour : ShipmentRun harbour cameAbroad shippedHarbour :=
  .request _ true _ run_loadedHarbour shipper_loadedHarbour

lemma draft_loadedHarbour : draftOf tenAbroad (some "k") 100 ∈ loadedHarbour.firstMiles := by
  decide +kernel

lemma accepted_loadedHarbour :
    ((postShipment 100 sameDay true).exec ⟨sessionFrom 200, loadedHarbour, []⟩).1.isOk := by
  decide +kernel

/-! ### Shares -/

/-- The parts of the cost of a shipment. -/
def allocationsOf (d : Db) (shipmentId : ℕ) : List FirstMileCostAllocation :=
  d.costAllocations.filter fun r => r.shipmentId = shipmentId

/-- The rows that a shipment has added to cost pools. -/
def poolsOf (d : Db) (shipmentId : ℕ) : List SkuCostPool :=
  d.costPools.filter fun pool => pool.shipmentId = shipmentId

/-- Each line of a shipment bears a part of its cost and has added a row to the pool of its SKU. -/
structure SharedOut (d : Db) (x : FirstMileShipment) : Prop where
  lines : (allocationsOf d x.id).map (fun r => (r.skuId, r.quantity)) = x.lines
  sum : ((allocationsOf d x.id).map fun r => r.allocatedCost).sum = x.costTotal
  nonneg : ∀ r ∈ allocationsOf d x.id, 0 ≤ r.allocatedCost
  pools : (poolsOf d x.id).map SkuCostPool.skuId = x.lines.map Prod.fst

/-- What is booked of a shipment is as its status says. -/
structure BookedAs (d : Db) (x : FirstMileShipment) : Prop where
  draft : x.status = .draft → allocationsOf d x.id = [] ∧ poolsOf d x.id = []
  posted : x.status = .posted → SharedOut d x

section shares

variable {d₀ d d' : Db} {came came' : List Arrival} {x : FirstMileShipment}

/-- The parts of a shipment are those of what has come of it. -/
lemma Stored.map_allocationsOf {β : Type} (h : Stored came d) (shipmentId : ℕ)
    (f : FirstMileCostAllocation → β) (hf : ∀ r, f { r with id := 0 } = f r) :
    (allocationsOf d shipmentId).map f =
      (broughtBy shipmentId came).map fun a => f a.row := by
  have hfilter : (d.costAllocations.map fun r => { r with id := 0 }).filter
      (fun r => r.shipmentId = shipmentId) =
        (allocationsOf d shipmentId).map fun r => { r with id := 0 } := by
    rw [List.filter_map]
    rfl
  have hbrought : (came.map Arrival.row).filter (fun r => r.shipmentId = shipmentId) =
      (broughtBy shipmentId came).map Arrival.row := by
    rw [List.filter_map]
    rfl
  rw [h.rows, hbrought] at hfilter
  have hmap := congrArg (List.map f) hfilter
  rw [List.map_map, List.map_map] at hmap
  rw [← Function.comp_def, hmap]
  exact List.map_congr_left fun r _ => (hf r).symm

lemma Piled.map_poolsOf {pools : List SkuCostPool} (h : Piled [] came pools) (shipmentId : ℕ) :
    (pools.filter fun pool => pool.shipmentId = shipmentId).map SkuCostPool.skuId =
      (broughtBy shipmentId came).map fun a => a.line.skuId := by
  induction h with
  | start => rfl
  | @more came pools a pool _ haverages _ ih =>
    unfold broughtBy at ih ⊢
    rw [List.filter_append, List.filter_append, List.map_append, List.map_append, ih]
    by_cases hid : a.shipment.id = shipmentId
    · simp [haverages.shipmentId, haverages.skuId, hid]
    · simp [haverages.shipmentId, hid]

lemma Stored.bookedAs (h : Stored came d) (hx : x ∈ d.firstMiles) : BookedAs d x := by
  refine ⟨fun hdraft => ?_, fun hposted => ?_⟩
  · have hnone := h.broughtBy_eq_nil hx hdraft
    have hrows := h.map_allocationsOf x.id (fun _ => ()) fun _ => rfl
    have hpools := h.piled.map_poolsOf x.id
    rw [hnone] at hrows hpools
    exact ⟨List.map_eq_nil_iff.mp hrows, List.map_eq_nil_iff.mp hpools⟩
  · have harrived := h.posted x hx hposted
    refine ⟨?_, ?_, fun r hr => ?_, ?_⟩
    · rw [h.map_allocationsOf x.id _ fun _ => rfl]
      exact harrived.lines
    · rw [h.map_allocationsOf x.id _ fun _ => rfl]
      exact harrived.sum
    · have hmem : r.allocatedCost ∈ (allocationsOf d x.id).map fun r => r.allocatedCost :=
        List.mem_map_of_mem hr
      rw [h.map_allocationsOf x.id _ fun _ => rfl] at hmem
      obtain ⟨a, ha, heq⟩ := List.mem_map.mp hmem
      rw [← heq]
      exact (harrived.sound a ha).cost_nonneg
    · have hlines := congrArg (List.map Prod.fst) harrived.lines
      rw [List.map_map] at hlines
      change (d.costPools.filter fun pool => pool.shipmentId = x.id).map SkuCostPool.skuId = _
      rw [h.piled.map_poolsOf]
      exact hlines

/-- Nothing has been booked of a draft, and the cost of a posted shipment has been shared out among
its lines to the last cent. What has been booked stays. -/
theorem shipment_shared_out (h₀ : Unshipped d₀) (h : ShipmentRun d₀ came d)
    (h' : ShipmentRun d came' d') :
    (∀ x ∈ d.firstMiles, BookedAs d x) ∧ Onward d d' :=
  ⟨fun _ hx => (h.stored h₀).bookedAs hx, (h'.later (h.stored h₀)).1⟩

theorem shipment_shared_out_harbour :
    ((∀ x ∈ shippedHarbour.firstMiles, BookedAs shippedHarbour x) ∧
      Onward shippedHarbour shippedHarbour) ∧
    shippedHarbour.firstMiles.map FirstMileShipment.status = [.posted] :=
  ⟨shipment_shared_out unshipped_harbour run_shippedHarbour .start, by decide +kernel⟩

end shares

/-! ### Averages over a run -/

/-- What a row of a cost pool says of the arrivals that it averages. Rounding takes no more than half
a millionth for each piece and each arrival that came to others. -/
structure Mean (pool : SkuCostPool) (as : List Arrival) : Prop where
  currency : ∀ a ∈ as, a.currency = pool.currency
  quantity : pool.quantity = (as.map fun a => a.line.quantity).sum
  between : ∀ code ∈ landedCodes, ∃ least ∈ as, ∃ most ∈ as,
    least.unit code ≤ pool.unit code ∧ pool.unit code ≤ most.unit code
  worth : ∀ code ∈ landedCodes,
    |pool.quantity * pool.unit code - (as.map fun a => (a.line.quantity : ℚ) * a.unit code).sum| *
      10 ^ 6 ≤ (as.length - 1 : ℕ) * pool.quantity / 2
  landed : |pool.landedUnit - (landedCodes.map pool.unit).sum| * 10 ^ 6 ≤ 4 * (as.length - 1 : ℕ)
  freight : |pool.quantity * pool.unit .firstMile - (as.map fun a => a.line.allocatedCost).sum| *
    10 ^ 6 ≤ as.length * pool.quantity / 2

section means

variable {d₀ d : Db} {came as : List Arrival} {pool : SkuCostPool} {skuId : ℕ}

lemma batch_ne_nil (h : broughtOf skuId came ≠ []) : batch skuId came ≠ [] := by
  intro hnil
  have hlast := List.rtakeWhile_eq_nil_iff.mp hnil h
  rw [List.getLast?_eq_getLast_of_ne_nil h] at hlast
  simp at hlast

lemma mem_of_mem_batch {a : Arrival} (h : a ∈ batch skuId came) : a ∈ came :=
  (List.mem_filter.mp ((List.rtakeWhile_suffix _ _).subset h)).1

/-- What the units of the first mile are worth, but for the rounding. -/
lemma abs_freight_sub_le (h : ∀ a ∈ as, a.Sound) :
    |(as.map fun a => (a.line.quantity : ℚ) * a.unit .firstMile).sum -
        (as.map fun a => a.line.allocatedCost).sum| * 10 ^ 6 ≤
      ((as.map fun a => a.line.quantity).sum : ℤ) / 2 := by
  have hpos : (0 : ℚ) < 10 ^ 6 := by positivity
  induction as with
  | nil => simp
  | cons a rest ih =>
    have ha := h a (by simp)
    have hq : (0 : ℚ) < a.line.quantity := by exact_mod_cast ha.quantity_pos
    have hrest := ih fun b hb => h b (by simp [hb])
    have hround := Decimals.abs_quantize_sub_le 6 (a.line.allocatedCost / a.line.quantity)
    have hone : |a.line.quantity * a.unit .firstMile - a.line.allocatedCost| * 10 ^ 6 ≤
        (a.line.quantity : ℚ) / 2 := by
      have hsplit : a.line.quantity * a.unit .firstMile - a.line.allocatedCost =
          a.line.quantity * (quantize (a.line.allocatedCost / a.line.quantity) -
            a.line.allocatedCost / a.line.quantity) := by
        rw [ha.firstMile, ha.unitCost, mul_sub, mul_div_cancel₀ _ hq.ne']
      rw [hsplit, abs_mul, abs_of_pos hq, mul_assoc]
      have := mul_le_mul_of_nonneg_left hround hq.le
      unfold quantize
      linarith
    simp only [List.map_cons, List.sum_cons]
    push_cast
    push_cast at hrest
    rw [add_sub_add_comm, add_div]
    refine le_trans ?_ (add_le_add hone hrest)
    rw [← add_mul]
    exact mul_le_mul_of_nonneg_right (abs_add_le _ _) hpos.le

/-- A row that averages arrivals is their mean. -/
lemma Averaged.mean (h : Averaged pool as) (hne : as ≠ []) (hsound : ∀ a ∈ as, a.Sound) :
    Mean pool as := by
  have hq : ∀ a ∈ as, 0 < a.line.quantity := fun a ha => (hsound a ha).quantity_pos
  have hfixed (code : LineCode) : ∀ a ∈ as, Decimals.Fixed 6 (a.unit code) := fun a ha =>
    (hsound a ha).units_fixed code
  have hworth : ∀ code ∈ landedCodes,
      |pool.quantity * pool.unit code - (as.map fun a => (a.line.quantity : ℚ) * a.unit code).sum| *
        10 ^ 6 ≤ (as.length - 1 : ℕ) * pool.quantity / 2 := by
    intro code hcode
    rw [h.unit code hcode, h.quantity]
    exact Lot.abs_price_pileOf_sub_le hq (hfixed code)
  refine ⟨h.currency, h.quantity, fun code hcode => ?_, hworth, ?_, ?_⟩
  · rw [h.unit code hcode]
    exact Lot.exists_price_pileOf_mem hne hq (hfixed code)
  · have hparts := Lot.abs_price_sub_parts_le hne hq (fun a ha => (hsound a ha).landed)
      fun code _ => hfixed code
    have hunits : landedCodes.map pool.unit = landedCodes.map fun code =>
        (Lot.pileOf 6 (fun a => a.line.quantity) (fun a => a.unit code) as).price :=
      List.map_congr_left h.unit
    rw [h.landed, hunits]
    refine hparts.trans (le_of_eq ?_)
    have hlength : (landedCodes.length : ℚ) = 7 := rfl
    rw [hlength]
    ring
  · have hfreight := abs_freight_sub_le hsound
    rw [← h.quantity] at hfreight
    have hmean := hworth .firstMile (by decide)
    have hlength : ((as.length - 1 : ℕ) : ℚ) + 1 = as.length := by
      exact_mod_cast Nat.sub_add_cancel (List.length_pos_iff.mpr hne)
    have hpos : (0 : ℚ) < 10 ^ 6 := by positivity
    have hapart := abs_sub_le ((pool.quantity : ℚ) * pool.unit .firstMile)
      (as.map fun a => (a.line.quantity : ℚ) * a.unit .firstMile).sum
      (as.map fun a => a.line.allocatedCost).sum
    have hscaled := mul_le_mul_of_nonneg_right hapart hpos.le
    rw [add_mul] at hscaled
    rw [← hlength]
    linarith

end means

/-! ### Posting -/

/-- How many of a SKU a shipment sends. -/
def sent (lines : List (ℕ × ℤ)) (skuId : ℕ) : ℤ :=
  total (fun line => if line.1 = skuId then line.2 else 0) lines

/-- What a posting makes of the data. -/
structure PostedTo (d : Db) (x : FirstMileShipment) (d' : Db) : Prop where
  frame : d' = { d with
    inventories := d'.inventories, flows := d'.flows, firstMiles := d'.firstMiles
    costAllocations := d'.costAllocations, costPools := d'.costPools }
  shipments : d'.firstMiles =
    alter FirstMileShipment.id x.id (fun x => { x with status := .posted }) d.firstMiles
  stays : journey x (orderedFor d x) = none → ∀ b t w, balanceAt d' b t w = balanceAt d b t w
  moves : ∀ here there, journey x (orderedFor d x) = some (here, there) → ∀ b t w,
    balanceAt d' b t w = balanceAt d b t w +
      ((if b = .inTransit ∧ there = w then sent x.lines t else 0) -
        if b = .available ∧ here = w then sent x.lines t else 0)

section posting

variable {d₀ d d' : Db} {came came' : List Arrival} {l : Session} {x : FirstMileShipment}
  {clock : ℕ → Day} {s s' : WorkState}

lemma shippedBy_eq (here there : ℕ) (lines : List (ℕ × ℤ)) (b : Bucket) (t w : ℕ) :
    shippedBy (some (here, there)) lines b t w =
      (if b = .inTransit ∧ there = w then sent lines t else 0) -
        if b = .available ∧ here = w then sent lines t else 0 := by
  unfold shippedBy sent
  rw [Option.elim_some]
  induction lines with
  | nil => simp
  | cons line rest ih =>
    rw [total_cons, total_cons, ih]
    have hone : moved here there line.1 line.2 b t w =
        (if b = .inTransit ∧ there = w then if line.1 = t then line.2 else 0 else 0) -
          if b = .available ∧ here = w then if line.1 = t then line.2 else 0 else 0 := by
      by_cases hsku : line.1 = t <;> by_cases hhere : here = w <;> by_cases hthere : there = w <;>
        cases b <;> simp [moved, postedTo, Delta.bucket, hsku, hhere, hthere]
    rw [hone]
    split_ifs <;> ring

lemma Posted.postedTo (h : Posted s x clock s') : PostedTo s.data x s'.data := by
  refine ⟨h.frame, h.shipments, fun hway b t w => ?_, fun here there hway b t w => ?_⟩
  · rw [h.balance, hway, shippedBy, Option.elim_none, add_zero]
  · rw [h.balance, hway, shippedBy_eq]

/-- A shipment that is posted takes its goods from the one warehouse and puts them in transit to the
other. No other balance is touched. -/
theorem post_moves_goods (h₀ : Unshipped d₀) (h : ShipmentRun d₀ came d) (hl : Shipper l d)
    (hx : x ∈ d.firstMiles) (hdraft : x.status = .draft) (visible : Bool)
    (hok : ((postShipment x.id clock visible).exec ⟨l, d, []⟩).1.isOk) :
    PostedTo d x ((postShipment x.id clock visible).commit l d) := by
  refine commit_of_ok (R := PostedTo d x) ?_ hok
  exact wp_postDraft ((h.stored h₀).postbook hl) hx hdraft
    (fun _ _ _ hposted => hposted.postedTo) fun _ _ _ => trivial

theorem post_moves_goods_harbour :
    PostedTo loadedHarbour (draftOf tenAbroad (some "k") 100)
      ((postShipment 100 sameDay true).commit (sessionFrom 200) loadedHarbour) :=
  post_moves_goods unshipped_harbour run_loadedHarbour shipper_loadedHarbour draft_loadedHarbour rfl
    true accepted_loadedHarbour

end posting

/-! ### Repeated requests -/

/-- The same request, perhaps with other contents. -/
inductive ShipmentRepeats : ShipmentCall → ShipmentCall → Prop
  | create (payload payload' : ShipmentCreate) (key : Option String) :
    ShipmentRepeats (.create payload key) (.create payload' key)
  | post (shipmentId : ℕ) (clock clock' : ℕ → Day) :
    ShipmentRepeats (.post shipmentId clock) (.post shipmentId clock')

namespace ShipmentCall

/-- A request that is known again has a key, or names its shipment. -/
def IsKeyed : ShipmentCall → Prop
  | create _ key => ∃ k, Cleaned key (some k)
  | post _ _ => True

def Answered (d : Db) : ShipmentCall → Prop
  | create _ key => ∃ k, Cleaned key (some k) ∧ KeyUsed d (some k)
  | post shipmentId _ => ∃ x ∈ d.firstMiles, x.id = shipmentId ∧ x.status = .posted

end ShipmentCall

section repetition

variable {d₀ d d' : Db} {came came' : List Arrival} {l : Session} {call call' : ShipmentCall}
  {visible visible' : Bool} {s : WorkState}

/-- A request that is accepted is answered. -/
lemma wp_answered_shipment (call : ShipmentCall) (visible : Bool) (h : Stored came d)
    (hl : Shipper l d) (hkeyed : call.IsKeyed) :
    (call.work visible).wp (fun _ s' => call.Answered s'.data) (fun _ _ => True) ⟨l, d, []⟩ := by
  cases call with
  | create payload key =>
    obtain ⟨k, hk⟩ := hkeyed
    rw [ShipmentCall.work, Prog.map, wp_bind]
    refine wp_createShipment hk (fun hused _ => ⟨k, hk, hused⟩) (fun _ _ _ => ⟨k, hk, rfl, ?_⟩)
      fun _ _ _ _ => trivial
    exact ⟨draftOf payload (some k) (l.ids 0), by simp [drafted], rfl⟩
  | post shipmentId clock =>
    rw [ShipmentCall.work, Prog.map, wp_bind]
    refine wp_postShipment (h.postbook hl) (fun x hx hid hposted _ => ⟨x, hx, hid, hposted⟩)
      (fun x hx hid _ _ _ s' hposted => ?_) fun _ _ _ => trivial
    exact ⟨{ x with status := .posted }, hposted.shipments ▸ mem_alter_self hx, hid, rfl⟩

lemma ShipmentCall.Answered.later (h : call.Answered d) (hlater : Onward d d')
    (hrep : ShipmentRepeats call call') : call'.Answered d' := by
  cases hrep with
  | create payload payload' key =>
    obtain ⟨k, hk, hsome, x, hx, hkey⟩ := h
    obtain ⟨x', hx', rfl | ⟨-, rfl⟩⟩ := hlater.shipments x hx
    · exact ⟨k, hk, hsome, x', hx', hkey⟩
    · exact ⟨k, hk, hsome, _, hx', hkey⟩
  | post shipmentId clock clock' =>
    obtain ⟨x, hx, hid, hposted⟩ := h
    obtain ⟨x', hx', rfl | ⟨-, rfl⟩⟩ := hlater.shipments x hx
    · exact ⟨x', hx', hid, hposted⟩
    · exact ⟨_, hx', hid, rfl⟩

/-- An answered request changes nothing, and is answered again. -/
lemma wp_again (visible : Bool) (h : call.Answered s.data)
    (hkeyed : Keyed FirstMileShipment.id s.data.firstMiles) :
    (call.work visible).wp (fun _ s' => s' = s) (fun _ _ => False) s := by
  cases call with
  | create payload key =>
    obtain ⟨k, hk, hused⟩ := h
    rw [ShipmentCall.work, Prog.map, wp_bind]
    exact wp_createShipment hk (fun _ _ => rfl) (fun hno => absurd hused hno) fun _ _ hno =>
      absurd hused hno
  | post shipmentId clock =>
    obtain ⟨x, hx, hid, hposted⟩ := h
    rw [ShipmentCall.work, Prog.map, wp_bind]
    unfold postShipment
    rw [bind_eq, wp_bind]
    refine wp_getShipment (fun y hy hyid => ?_) fun hno => hno x hx hid
    obtain rfl := hkeyed.eq_of_key_eq hy hx (hyid.trans hid.symm)
    rw [if_pos hposted]
    exact wp_shipmentView fun _ => rfl

/-- A request that was accepted once is accepted again and changes nothing, however much later. -/
theorem shipment_repeated (h₀ : Unshipped d₀) (h : ShipmentRun d₀ came d) (hl : Shipper l d)
    (hok : ((call.work visible).exec ⟨l, d, []⟩).1.isOk) (hkeyed : call.IsKeyed)
    (h' : ShipmentRun ((call.work visible).commit l d) came' d')
    (hrep : ShipmentRepeats call call') (l' : Session) :
    ((call'.work visible').exec ⟨l', d', []⟩).1.isOk ∧ (call'.work visible').commit l' d' = d' := by
  have hstored := h.stored h₀
  have hanswered : call.Answered ((call.work visible).commit l d) :=
    commit_of_ok (R := fun d => call.Answered d) (wp_answered_shipment call visible hstored hl hkeyed)
      hok
  obtain ⟨hlater, hstored'⟩ := h'.later (hstored.request call visible hl).1
  have hagain := wp_again visible' (s := ⟨l', d', []⟩) (hanswered.later hlater hrep) hstored'.keyed
  refine ⟨?_, commit_of_wp (R := (· = d')) (wp_mono hagain (fun _ s' hs => ?_) fun _ _ hno => hno.elim)⟩
  · exact (isOk_iff_of_wp (wp_mono hagain (fun _ _ _ => trivial) fun _ _ hno _ => hno)).mpr trivial
  · rw [hs]

theorem shipment_repeated_harbour :
    (((ShipmentCall.create tenAbroad (some "k")).work false).exec
        ⟨sessionFrom 300, shippedHarbour, []⟩).1.isOk ∧
      ((ShipmentCall.create tenAbroad (some "k")).work false).commit (sessionFrom 300)
        shippedHarbour = shippedHarbour :=
  shipment_repeated (d := harbour) unshipped_harbour .start
    (Beneath.shipper (by decide)) (by decide +kernel : (((ShipmentCall.create tenAbroad (some "k")).work
      true).exec ⟨sessionFrom 100, harbour, []⟩).1.isOk) ⟨"k", by decide +kernel, by simp⟩
    (.request (.post 100 sameDay) true _ .start shipper_loadedHarbour)
    (.create tenAbroad tenAbroad (some "k")) (sessionFrom 300)

end repetition

end Purchasing

end CrossPilot
