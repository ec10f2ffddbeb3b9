import Mathlib.Data.List.ReduceOption
import CrossPilot.Adapters.Pages
import CrossPilot.Lib.Readings

/-!
# Orders that cannot be read

A parse failure is not retryable, the parsers say, and only amounts are read with that in mind: any
other field that cannot be read lets an exception of Python's through, and an amount that is no
number, a negative quantity or a time without zone is no failure at all.

What the adapters make of an answer is told from the readings of its fields, in the order in which
the code makes them (`fetched_iff`).
-/

namespace CrossPilot.Adapters

open Webhook Decimals Readings

/-! ### Readings -/

/-- A reading of a field: that a value has the shape it needs, an amount, a quantity, or a time. -/
inductive Reading
  | shape (fits : Bool)
  | money (amount : Option Numeral)
  | quantity (n : Option ℤ)
  | time (t : Option Datetime)
  | updated (t : Option Datetime)

namespace Reading

def readable : Reading → Bool
  | shape fits => fits
  | money amount => amount.isSome
  | quantity n => n.isSome
  | time t => t.isSome
  | updated t => t.isSome

/-- Amounts are finite, quantities are not negative, and the update has a time zone. -/
def Sound : Reading → Prop
  | shape _ => True
  | money amount => ∃ x ∈ amount, x.isFinite = true
  | quantity n => ∃ m ∈ n, 0 ≤ m
  | time _ => True
  | updated t => ∃ micros, t = some (.aware micros)

/-- Only an amount fails as the parsers promise. -/
def IsMoney : Reading → Prop
  | money _ => True
  | _ => False

end Reading

/-- An error that is not retried. -/
def Failure.IsFailFast : Failure → Prop
  | adapter _ _ decision => decision = .failFast
  | raised _ => False

def fields : Kind Reading Failure where
  readable := Reading.readable
  sound := Reading.Sound
  excused := Reading.IsMoney
  expected := Failure.IsFailFast

/-! ### The readings of an order -/

def isObject : Json → Bool
  | .dict _ => true
  | _ => false

/-- What a loop over a value goes through, or nothing. -/
def elements (value : Json) : List Json := ((iterate value).toOption).getD []

/-- A loop over the items of an order. -/
def rowReadings (items : Json) (readings : Json → List Reading) : List Reading :=
  let rows := items.orElse (.list [])
  .shape (iterate rows).isOk :: (elements rows).flatMap readings

/-- An item, once its price has been found. -/
def itemReadings (py : Library) (keys : ItemKeys) (row : JsonObject) (price : Json) :
    List Reading :=
  [.quantity (toInteger ((row.get keys.quantity).orElse (.int 0))).toOption, .money (dec py price)]

def pricedItemReadings (py : Library) (keys : ItemKeys) (priceKey : String) (row : Json) :
    List Reading :=
  .shape (isObject row) :: itemReadings py keys (dictOf row) ((dictOf row).get priceKey)

def amazonItemReadings (py : Library) (row : Json) : List Reading :=
  let itemPrice := ((dictOf row).get "ItemPrice").orElse (.dict [])
  .shape (isObject row) :: .shape (isObject itemPrice) ::
    itemReadings py amazonKeys (dictOf row) (getOr (dictOf itemPrice) "Amount" (.str "0"))

def paidReadings (value : Json) (t : Option Datetime) : List Reading :=
  if value.truthy then [.time t] else []

def feeReadings (py : Library) (row : JsonObject) : List Reading :=
  match feeOf py row with
  | none => []
  | some (_, amount) => [.money (dec py amount)]

def feesReadings (py : Library) (rows : Json) : List Reading :=
  (objects (listOf rows)).flatMap (feeReadings py)

def keyReading (raw : JsonObject) (key : String) : Reading := .shape (raw.lookup key).isSome

/-- The time of the update of an order, in seconds. -/
def unixReading (raw : JsonObject) (updatedKey paidKey : String) : Reading :=
  .updated
    (readUnix (((raw.get updatedKey).orElse (raw.get paidKey)).orElse (.int 0))).toOption

def amazonReadings (py : Library) (raw : JsonObject) : List Reading :=
  let total := (raw.get "OrderTotal").orElse (.dict [])
  let updated := (amazonUpdated raw).toOption
  rowReadings (raw.get "OrderItems") (amazonItemReadings py) ++
    [.shape (isObject total), keyReading raw "AmazonOrderId",
      .money (dec py ((dictOf total).get "Amount"))] ++
    paidReadings (raw.get "PurchaseDate") (isoTime py (py.str (raw.get "PurchaseDate"))) ++
    [.shape updated.isSome, .updated (isoTime py (py.str (updated.getD .null)))] ++
    feesReadings py (raw.get "OrderFees")

def shopeeReadings (py : Library) (raw : JsonObject) : List Reading :=
  rowReadings (raw.get "item_list")
      (pricedItemReadings py shopeeKeys "model_discounted_price") ++
    [keyReading raw "order_sn", .money (dec py (raw.get "total_amount"))] ++
    paidReadings (raw.get "pay_time") (readUnix (raw.get "pay_time")).toOption ++
    [unixReading raw "update_time" "pay_time"] ++
    feesReadings py (raw.get "fee_list")

/-- The time of the update of a Lazada order. -/
def lazadaUpdated (py : Library) (now : Instant) (updated : String) : Option Datetime :=
  if updated ≠ "" then isoTime py updated else some (.aware now)

def lazadaReadings (py : Library) (now : Instant) (raw : JsonObject) : List Reading :=
  let created := lazadaDate py (raw.get "created_at")
  let updated := lazadaDate py ((raw.get "updated_at").orElse (raw.get "created_at"))
  .shape (lazadaStatus raw).isOk ::
    rowReadings (raw.get "items") (pricedItemReadings py lazadaKeys "item_price") ++
    [keyReading raw "order_id", .money (dec py (raw.get "price"))] ++
    paidReadings (.str created) (isoTime py created) ++
    [.updated (lazadaUpdated py now updated)] ++
    feesReadings py (raw.get "fee_list")

def tiktokReadings (py : Library) (raw : JsonObject) : List Reading :=
  let payment := (raw.get "payment").orElse (.dict [])
  rowReadings (raw.get "line_items") (pricedItemReadings py tiktokKeys "sale_price") ++
    [.shape (isObject payment), keyReading raw "id",
      .money (dec py ((dictOf payment).get "total_amount"))] ++
    paidReadings (raw.get "paid_time") (readUnix (raw.get "paid_time")).toOption ++
    [unixReading raw "update_time" "paid_time"] ++
    feesReadings py (((dictOf payment).get "fee_list").orElse (raw.get "fee_list"))

/-! ### One field -/

section fields

variable {py : Library} {p : Prop} {value : Json} {raw o : JsonObject} {key : String}

lemma reads_asObject (v : Json) :
    Reads fields p [.shape (isObject v)] (asObject v) fun _ => p := by
  cases v with
  | dict entries => exact Reads.ok rfl (by simp [fields, Reading.Sound])
  | _ => exact Reads.error rfl (by simp [fields, Failure.IsFailFast, Reading.IsMoney])

lemma dictOf_of_asObject (h : asObject value = .ok o) : dictOf value = o := by
  cases value with
  | dict entries =>
    cases h
    rfl
  | _ => cases h

lemma reads_iterate (v : Json) :
    Reads fields p [.shape (iterate v).isOk] (iterate v) fun _ => p := by
  cases hv : iterate v with
  | ok rows => exact Reads.ok rfl (by simp [fields, Reading.Sound])
  | error e =>
    have he : ∃ x, e = .raised x := by
      cases v <;> simp [iterate] at hv <;> exact ⟨_, hv.symm⟩
    obtain ⟨x, rfl⟩ := he
    exact Reads.error rfl (by simp [fields, Failure.IsFailFast, Reading.IsMoney])

lemma reads_subscript (raw : JsonObject) (key : String) :
    Reads fields p [keyReading raw key] (subscript raw key) fun _ => p := by
  cases h : raw.lookup key with
  | some v =>
    rw [subscript, keyReading, h]
    exact Reads.ok rfl (by simp [fields, Reading.Sound])
  | none =>
    rw [subscript, keyReading, h]
    exact Reads.error rfl (by simp [fields, Failure.IsFailFast, Reading.IsMoney])

lemma reads_toInteger (v : Json) :
    Reads fields p [.quantity (toInteger v).toOption] (toInteger v) fun n => p ∧ 0 ≤ n := by
  rw [toInteger]
  cases v.toInt with
  | ok n => exact Reads.ok rfl (by simp [fields, Reading.Sound, Except.toOption])
  | error e =>
    cases e <;>
      exact Reads.error rfl (by simp [fields, Failure.IsFailFast, Reading.IsMoney])

lemma reads_requireMoney (platform : Platform) (v : Json) :
    Reads fields p [.money (dec py v)] (requireMoney py platform v)
      fun amount => p ∧ amount.isFinite = true := by
  rw [requireMoney]
  cases dec py v with
  | some amount => exact Reads.ok rfl (by simp [fields, Reading.Sound])
  | none => exact Reads.error rfl (by simp [fields, Failure.IsFailFast, Reading.IsMoney])

section time

variable {x : Except Failure Datetime} {t : Option Datetime} (ht : x.toOption = t)
  (hx : ∀ e, x = .error e → ¬ e.IsFailFast)

include ht hx

/-- A time whose reading fails with an exception of Python's. -/
lemma reads_time : Reads fields p [.time t] x fun _ => p := by
  subst ht
  cases x with
  | ok t => exact Reads.ok rfl (by simp [fields, Reading.Sound])
  | error e => exact Reads.error rfl (by simp [fields, Reading.IsMoney, hx e rfl])

lemma reads_updated : Reads fields p [.updated t] x fun t => p ∧ ∃ micros, t = .aware micros := by
  subst ht
  cases x with
  | ok t => exact Reads.ok rfl (by simp [fields, Reading.Sound, Except.toOption])
  | error e => exact Reads.error rfl (by simp [fields, Reading.IsMoney, hx e rfl])

end time

lemma toOption_dtFromIso (s : String) : (dtFromIso py s).toOption = isoTime py s := by
  rw [dtFromIso]
  cases isoTime py s <;> rfl

lemma not_isFailFast_dtFromIso (s : String) :
    ∀ e, dtFromIso py s = .error e → ¬ e.IsFailFast := by
  intro e he
  rw [dtFromIso] at he
  cases hs : isoTime py s with
  | some t => simp [hs] at he
  | none =>
    rw [hs] at he
    cases he
    simp [Failure.IsFailFast]

lemma not_isFailFast_readUnix (v : Json) : ∀ e, readUnix v = .error e → ¬ e.IsFailFast := by
  intro e he
  have hraised : ∃ x, e = .raised x := by
    simp only [readUnix, toInteger, dtFromUnix, bind, Except.bind] at he
    split at he
    · rename_i err herr
      split at herr <;> cases herr <;> cases he <;> exact ⟨_, rfl⟩
    · split_ifs at he <;> cases he <;> exact ⟨_, rfl⟩
  obtain ⟨x, rfl⟩ := hraised
  simp [Failure.IsFailFast]

lemma reads_paidAt {read : Json → Except Failure Datetime} {t : Option Datetime}
    (ht : (read value).toOption = t) (hread : ∀ e, read value = .error e → ¬ e.IsFailFast) :
    Reads fields p (paidReadings value t) (readPaidAt read value) fun _ => p := by
  rw [readPaidAt, paidReadings]
  split_ifs
  · exact Reads.bind_pure (reads_time ht hread) fun _ => Iff.rfl
  · exact Reads.pure Iff.rfl

end fields

/-! ### Items and fees -/

/-- An item with a finite price and a quantity that is not negative. -/
def UnifiedOrderItem.Sound (item : UnifiedOrderItem) : Prop :=
  0 ≤ item.quantity ∧ item.unitPrice.isFinite = true

def UnifiedFee.Sound (fee : UnifiedFee) : Prop := fee.amount.isFinite = true

/-- The order that the parsers promise: finite amounts, quantities that are not negative, and a time
zone at the time of its update. -/
structure UnifiedOrder.Sound (order : UnifiedOrder) : Prop where
  items : ∀ item ∈ order.items, item.Sound
  total : order.totalAmount.isFinite = true
  updated : ∃ micros, order.updatedAt = .aware micros
  fees : ∀ fee ∈ order.fees, fee.Sound

section parts

variable {py : Library} {p : Prop} {platform : Platform}

lemma reads_item (keys : ItemKeys) (row : JsonObject) (price : Json) :
    Reads fields True (itemReadings py keys row price)
      (readItem py platform keys row price) UnifiedOrderItem.Sound := by
  refine Reads.bind_cons (reads_toInteger _) fun quantity _ => ?_
  refine Reads.bind_pure (reads_requireMoney platform price) fun unitPrice => ?_
  simp [UnifiedOrderItem.Sound]

/-- A loop over the items of an order. -/
lemma reads_rows {read : Json → Except Failure UnifiedOrderItem} {readings : Json → List Reading}
    (items : Json) (h : ∀ row, Reads fields True (readings row) (read row) UnifiedOrderItem.Sound) :
    Reads fields p (rowReadings items readings)
      (do let rows ← iterate (items.orElse (.list [])); rows.mapM read)
      fun as => p ∧ ∀ a ∈ as, a.Sound := by
  refine Reads.bind_cons (reads_iterate _) fun rows hrows => ?_
  rw [elements, hrows]
  exact Reads.mapM fun row _ => h row

lemma reads_items (keys : ItemKeys) (priceKey : String) (items : Json) :
    Reads fields p (rowReadings items (pricedItemReadings py keys priceKey))
      (readItems py platform keys priceKey items) fun as => p ∧ ∀ a ∈ as, a.Sound := by
  refine reads_rows items fun row => ?_
  refine Reads.bind_cons (reads_asObject row) fun o ho => ?_
  rw [dictOf_of_asObject ho]
  exact reads_item keys o _

lemma reads_amazonItem (row : Json) :
    Reads fields True (amazonItemReadings py row) (amazonItem py row) UnifiedOrderItem.Sound := by
  refine Reads.bind_cons (reads_asObject row) fun o ho => ?_
  rw [dictOf_of_asObject ho]
  refine Reads.bind_cons (reads_asObject _) fun itemPrice hprice => ?_
  rw [dictOf_of_asObject hprice]
  exact reads_item amazonKeys o _

lemma reads_fee (currency : String) (row : JsonObject) :
    Reads fields True (feeReadings py row) (readFee py platform currency row)
      fun fee => ∀ f ∈ fee, f.Sound := by
  rw [feeReadings, readFee]
  cases feeOf py row with
  | none => exact Reads.pure (by simp)
  | some fee =>
    refine Reads.bind_pure (reads_requireMoney platform fee.2) fun amount => ?_
    simp [UnifiedFee.Sound]

lemma reads_fees (currency : String) (rows : Json) :
    Reads fields p (feesReadings py rows) (readFees py platform currency rows)
      fun fees => p ∧ ∀ fee ∈ fees, fee.Sound := by
  refine Reads.bind_pure (Reads.mapM fun row _ => reads_fee currency row) fun fees => ?_
  rw [and_congr_right_iff]
  intro _
  constructor
  · intro h fee hfee f hf
    rw [Option.mem_def] at hf
    exact h f (List.reduceOption_mem_iff.mpr (hf ▸ hfee))
  · intro h fee hfee
    exact h _ (List.reduceOption_mem_iff.mp hfee) fee rfl

/-- The demands on an order, in the order in which they are met. -/
lemma UnifiedOrder.sound_iff {order : UnifiedOrder} : order.Sound ↔
    (((True ∧ ∀ item ∈ order.items, item.Sound) ∧ order.totalAmount.isFinite = true) ∧
      ∃ micros, order.updatedAt = .aware micros) ∧ ∀ fee ∈ order.fees, fee.Sound := by
  constructor
  · rintro ⟨hitems, htotal, hupdated, hfees⟩
    exact ⟨⟨⟨⟨trivial, hitems⟩, htotal⟩, hupdated⟩, hfees⟩
  · rintro ⟨⟨⟨⟨-, hitems⟩, htotal⟩, hupdated⟩, hfees⟩
    exact ⟨hitems, htotal, hupdated, hfees⟩

end parts

/-! ### Orders -/

section orders

variable (py : Library) (now : Instant) (shopId status : String) (raw : JsonObject)

lemma reads_amazonUpdated {p : Prop} : Reads fields p
    [.shape (amazonUpdated raw).toOption.isSome] (amazonUpdated raw) fun _ => p := by
  rw [amazonUpdated]
  split_ifs
  · exact Reads.ok rfl (by simp [fields, Reading.Sound])
  · have hkey : (subscript raw "PurchaseDate").toOption.isSome =
        (raw.lookup "PurchaseDate").isSome := by
      rw [subscript]
      cases raw.lookup "PurchaseDate" <;> rfl
    rw [hkey]
    exact reads_subscript raw "PurchaseDate"

lemma reads_amazonOrder : Reads fields True (amazonReadings py raw)
    (amazonOrder py shopId status raw) UnifiedOrder.Sound := by
  simp only [amazonReadings, rowReadings, List.append_assoc, List.cons_append, List.nil_append]
  refine Reads.bind_cons (reads_iterate _) fun rows hrows => ?_
  rw [elements, hrows]
  refine Reads.bind (Reads.mapM fun row _ => reads_amazonItem row) fun items _ => ?_
  refine Reads.bind_cons (reads_asObject _) fun total htotal => ?_
  rw [dictOf_of_asObject htotal]
  refine Reads.bind_cons (reads_subscript raw "AmazonOrderId") fun orderId _ => ?_
  refine Reads.bind_cons (reads_requireMoney .amazon _) fun amount _ => ?_
  refine Reads.bind (reads_paidAt (toOption_dtFromIso _) (not_isFailFast_dtFromIso _)) fun paidAt _ => ?_
  refine Reads.bind_cons (reads_amazonUpdated raw) fun updated hupdated => ?_
  rw [hupdated]
  refine Reads.bind_cons (reads_updated (toOption_dtFromIso _) (not_isFailFast_dtFromIso _))
    fun updatedAt _ => ?_
  exact Reads.bind_pure (reads_fees _ _) fun fees => UnifiedOrder.sound_iff

lemma reads_shopeeOrder : Reads fields True (shopeeReadings py raw)
    (shopeeOrder py shopId status raw) UnifiedOrder.Sound := by
  simp only [shopeeReadings, List.append_assoc, List.cons_append, List.nil_append]
  refine Reads.bind (reads_items shopeeKeys "model_discounted_price" _) fun items _ => ?_
  refine Reads.bind_cons (reads_subscript raw "order_sn") fun orderId _ => ?_
  refine Reads.bind_cons (reads_requireMoney .shopee _) fun total _ => ?_
  refine Reads.bind (reads_paidAt rfl (not_isFailFast_readUnix _)) fun paidAt _ => ?_
  refine Reads.bind_cons (reads_updated rfl (not_isFailFast_readUnix _)) fun updatedAt _ => ?_
  exact Reads.bind_pure (reads_fees _ _) fun fees => UnifiedOrder.sound_iff

lemma exists_raised_of_first {v : Json} {e : Failure} (h : first v = .error e) :
    ∃ x, e = .raised x := by
  cases v with
  | list rows =>
    cases rows <;> cases h
    exact ⟨_, rfl⟩
  | _ => cases h <;> exact ⟨_, rfl⟩

lemma reads_lazadaStatus {p : Prop} :
    Reads fields p [.shape (lazadaStatus raw).isOk] (lazadaStatus raw) fun _ => p := by
  cases h : lazadaStatus raw with
  | ok status => exact Reads.ok rfl (by simp [fields, Reading.Sound])
  | error e =>
    have he : ∃ x, e = .raised x := by
      simp only [lazadaStatus] at h
      split_ifs at h
      exact exists_raised_of_first h
    obtain ⟨x, rfl⟩ := he
    exact Reads.error rfl (by simp [fields, Failure.IsFailFast, Reading.IsMoney])

lemma reads_lazadaUpdatedAt {p : Prop} (updated : String) :
    Reads fields p [.updated (lazadaUpdated py now updated)]
      (lazadaUpdatedAt py now updated) fun t => p ∧ ∃ micros, t = .aware micros := by
  rw [lazadaUpdated, lazadaUpdatedAt]
  split_ifs
  · exact reads_updated (toOption_dtFromIso _) (not_isFailFast_dtFromIso _)
  · exact Reads.ok rfl (by simp [fields, Reading.Sound])

lemma reads_lazadaOrder :
    Reads fields True (lazadaReadings py now raw) (lazadaOrder py now shopId status raw)
      UnifiedOrder.Sound := by
  simp only [lazadaReadings, List.append_assoc, List.cons_append, List.nil_append]
  refine Reads.bind_cons (reads_lazadaStatus raw) fun status _ => ?_
  refine Reads.bind (reads_items lazadaKeys "item_price" _) fun items _ => ?_
  refine Reads.bind_cons (reads_subscript raw "order_id") fun orderId _ => ?_
  refine Reads.bind_cons (reads_requireMoney .lazada _) fun total _ => ?_
  refine Reads.bind (reads_paidAt (toOption_dtFromIso _) (not_isFailFast_dtFromIso _)) fun paidAt _ => ?_
  refine Reads.bind_cons (reads_lazadaUpdatedAt py now _) fun updatedAt _ => ?_
  exact Reads.bind_pure (reads_fees _ _) fun fees => UnifiedOrder.sound_iff

lemma reads_tiktokOrder : Reads fields True (tiktokReadings py raw)
    (tiktokOrder py shopId status raw) UnifiedOrder.Sound := by
  simp only [tiktokReadings, List.append_assoc, List.cons_append, List.nil_append]
  refine Reads.bind (reads_items tiktokKeys "sale_price" _) fun items _ => ?_
  refine Reads.bind_cons (reads_asObject _) fun payment hpayment => ?_
  rw [dictOf_of_asObject hpayment]
  refine Reads.bind_cons (reads_subscript raw "id") fun orderId _ => ?_
  refine Reads.bind_cons (reads_requireMoney .tiktok _) fun total _ => ?_
  refine Reads.bind (reads_paidAt rfl (not_isFailFast_readUnix _)) fun paidAt _ => ?_
  refine Reads.bind_cons (reads_updated rfl (not_isFailFast_readUnix _)) fun updatedAt _ => ?_
  exact Reads.bind_pure (reads_fees _ _) fun fees => UnifiedOrder.sound_iff

end orders

/-! ### Answers -/

/-- The readings of an order, in the order in which its parser makes them. -/
def orderReadings (py : Library) (now : Instant) : Platform → JsonObject → List Reading
  | .amazon => amazonReadings py
  | .shopee => shopeeReadings py
  | .lazada => lazadaReadings py now
  | .tiktok => tiktokReadings py

/-- The parser of the orders of a platform, with the unified status of the adapter. -/
def readOrder (py : Library) (now : Instant) (shopId : String) (platform : Platform)
    (row : JsonObject) : Except Failure UnifiedOrder :=
  match platform with
  | .amazon =>
    amazonOrder py shopId (unifiedStatus .amazon (py.textOf (row.get "OrderStatus"))) row
  | .shopee =>
    shopeeOrder py shopId (unifiedStatus .shopee (py.textOf (row.get "order_status"))) row
  | .lazada =>
    lazadaOrder py now shopId (unifiedStatus .lazada (lazadaFirstStatus py row)) row
  | .tiktok => tiktokOrder py shopId (unifiedStatus .tiktok (py.textOf (row.get "status"))) row

/-- The id of an order. -/
def orderId (py : Library) (platform : Platform) (row : JsonObject) : String :=
  match platform with
  | .amazon => py.str (row.get "AmazonOrderId")
  | .shopee => py.str (row.get "order_sn")
  | .lazada => py.str (row.get "order_id")
  | .tiktok => py.str (row.get "id")

/-- The orders in an answer. -/
def answerRows (platform : Platform) (raw : JsonObject) : List JsonObject :=
  match platform with
  | .amazon => rowsOf { body := "payload", rows := "Orders", token := "NextToken" } raw raw
  | .shopee => rowsOf { body := "response", rows := "order_list", token := "next_cursor" } raw raw
  | .lazada => rowsOf { body := "data", rows := "orders", token := "next_cursor" } raw raw
  | .tiktok =>
    let keys : PageKeys := { body := "data", rows := "orders", token := "next_page_token" }
    rowsOf keys (payloadOf keys raw) raw

/-- The readings of an answer: those of its orders, one after another. -/
def answerReadings (py : Library) (now : Instant) (platform : Platform) (raw : JsonObject) :
    List Reading :=
  (answerRows platform raw).flatMap (orderReadings py now platform)

/-- The readings end as they should for one order of an answer. All orders are read before it is
looked for. -/
def CleanFor (py : Library) (now : Instant) (platform : Platform) (raw : JsonObject)
    (platformOrderId : String) : Prop :=
  match fields.failing (answerReadings py now platform raw) with
  | some r => r.IsMoney
  | none => ∀ row ∈ (answerRows platform raw).find? (fun row =>
      orderId py platform row = platformOrderId), ∀ r ∈ orderReadings py now platform row, r.Sound

section answers

variable (py : Library) (now : Instant) (shopId : String) (platform : Platform) (raw : JsonObject)

lemma reads_readOrder : Reads fields True (orderReadings py now platform raw)
    (readOrder py now shopId platform raw) UnifiedOrder.Sound := by
  cases platform with
  | amazon => exact reads_amazonOrder py shopId _ raw
  | shopee => exact reads_shopeeOrder py shopId _ raw
  | lazada => exact reads_lazadaOrder py now shopId _ raw
  | tiktok => exact reads_tiktokOrder py shopId _ raw

lemma get_of_subscript {o : JsonObject} {key : String} {v : Json} (h : subscript o key = .ok v) :
    o.get key = v := by
  rw [subscript] at h
  rw [JsonObject.get]
  cases hkey : o.lookup key with
  | none => simp [hkey] at h
  | some w =>
    rw [hkey] at h
    cases h
    rfl

/-- An order is stored under the id that its field shows. -/
lemma platformOrderId_eq {order : UnifiedOrder}
    (h : readOrder py now shopId platform raw = .ok order) :
    order.platformOrderId = orderId py platform raw := by
  cases platform with
  | amazon =>
    obtain ⟨rows, -, h⟩ := exists_of_bind h
    obtain ⟨items, -, h⟩ := exists_of_bind h
    obtain ⟨total, -, h⟩ := exists_of_bind h
    obtain ⟨id, hid, h⟩ := exists_of_bind h
    obtain ⟨amount, -, h⟩ := exists_of_bind h
    obtain ⟨paidAt, -, h⟩ := exists_of_bind h
    obtain ⟨updated, -, h⟩ := exists_of_bind h
    obtain ⟨updatedAt, -, h⟩ := exists_of_bind h
    obtain ⟨fees, -, h⟩ := exists_of_bind h
    cases h
    rw [orderId, get_of_subscript hid]
  | shopee =>
    obtain ⟨items, -, h⟩ := exists_of_bind h
    obtain ⟨id, hid, h⟩ := exists_of_bind h
    obtain ⟨amount, -, h⟩ := exists_of_bind h
    obtain ⟨paidAt, -, h⟩ := exists_of_bind h
    obtain ⟨updatedAt, -, h⟩ := exists_of_bind h
    obtain ⟨fees, -, h⟩ := exists_of_bind h
    cases h
    rw [orderId, get_of_subscript hid]
  | lazada =>
    obtain ⟨status, -, h⟩ := exists_of_bind h
    obtain ⟨items, -, h⟩ := exists_of_bind h
    obtain ⟨id, hid, h⟩ := exists_of_bind h
    obtain ⟨amount, -, h⟩ := exists_of_bind h
    obtain ⟨paidAt, -, h⟩ := exists_of_bind h
    obtain ⟨updatedAt, -, h⟩ := exists_of_bind h
    obtain ⟨fees, -, h⟩ := exists_of_bind h
    cases h
    rw [orderId, get_of_subscript hid]
  | tiktok =>
    obtain ⟨items, -, h⟩ := exists_of_bind h
    obtain ⟨payment, -, h⟩ := exists_of_bind h
    obtain ⟨id, hid, h⟩ := exists_of_bind h
    obtain ⟨amount, -, h⟩ := exists_of_bind h
    obtain ⟨paidAt, -, h⟩ := exists_of_bind h
    obtain ⟨updatedAt, -, h⟩ := exists_of_bind h
    obtain ⟨fees, -, h⟩ := exists_of_bind h
    cases h
    rw [orderId, get_of_subscript hid]

/-- An adapter reads the orders of an answer one after another. -/
lemma fetchOrders_eq : ∃ nextCursor, fetchOrders py now shopId platform raw =
    (answerRows platform raw).mapM (readOrder py now shopId platform) >>=
      fun items => pure { items, nextCursor } := by
  cases platform <;> exact ⟨_, rfl⟩

lemma reads_fetchOrders : Reads fields True (answerReadings py now platform raw)
    (fetchOrders py now shopId platform raw) fun page => ∀ order ∈ page.items, order.Sound := by
  obtain ⟨cursor, heq⟩ := fetchOrders_eq py now shopId platform raw
  rw [heq]
  refine Reads.bind_pure (Reads.mapM fun row _ => reads_readOrder py now shopId platform row)
    fun items => ?_
  rw [true_and]

lemma lawful_fetchOrder_iff (platformOrderId : String) :
    fields.Lawful (fun found => ∀ order ∈ found, order.Sound)
      (fetchOrder py now shopId platform platformOrderId raw) ↔
      CleanFor py now platform raw platformOrderId := by
  obtain ⟨cursor, heq⟩ := fetchOrders_eq py now shopId platform raw
  have hid : ∀ row order, readOrder py now shopId platform row = .ok order →
      decide (order.platformOrderId = platformOrderId) =
        decide (orderId py platform row = platformOrderId) := by
    intro row order h
    rw [platformOrderId_eq py now shopId platform row h]
  have hfind := Reads.mapM_find (fun row => reads_readOrder py now shopId platform row) hid
    (answerRows platform raw)
  rw [fetchOrder, heq, CleanFor, answerReadings]
  cases hfailing : fields.failing
    ((answerRows platform raw).flatMap (orderReadings py now platform)) with
  | some r =>
    rw [hfailing] at hfind
    obtain ⟨e, he, hexpected⟩ := hfind
    rw [he]
    exact hexpected
  | none =>
    rw [hfailing] at hfind
    obtain ⟨orders, horders, hsound⟩ := hfind
    rw [horders]
    exact hsound

/-- What an adapter makes of an answer is as the parsers promise exactly if the first field that cannot
be read, if there is one, is an amount, and else all fields are sound: of all orders, or of the one
that was asked for. -/
theorem fetched_iff (platformOrderId : String) :
    (fields.Lawful (fun page => ∀ order ∈ page.items, order.Sound)
        (fetchOrders py now shopId platform raw) ↔
      fields.Clean (answerReadings py now platform raw)) ∧
    (fields.Lawful (fun found => ∀ order ∈ found, order.Sound)
        (fetchOrder py now shopId platform platformOrderId raw) ↔
      CleanFor py now platform raw platformOrderId) :=
  ⟨(reads_fetchOrders py now shopId platform raw).lawful_iff,
    lawful_fetchOrder_iff py now shopId platform raw platformOrderId⟩

end answers

/-- An order whose total is no number. -/
def nanOrder : JsonObject := [("order_sn", .str "1"), ("total_amount", .str "NaN")]

lemma answerReadings_nanOrder (py : Library) : answerReadings py 0 .shopee nanOrder =
    [.shape true, .shape true, .money (some .nan), .updated (some (.aware 0))] := by
  have hnan : dec py (.str "NaN") = some .nan := by
    show Numeral.ofText "NaN" = some .nan
    decide
  show [Reading.shape true, .shape true, .money (dec py (.str "NaN")), .updated (some (.aware 0))] = _
  rw [hnan]

/-- An order without id raises a `KeyError`, and a total that is no number is returned. -/
theorem not_promised : ¬ (∀ (py : Library) (now : Instant) (shopId : String) (platform : Platform),
      fields.Lawful (fun page => ∀ order ∈ page.items, order.Sound)
        (fetchOrders py now shopId platform [])) ∧
    ¬ ∀ (py : Library) (now : Instant) (shopId : String) (platform : Platform),
      fields.Lawful (fun page => ∀ order ∈ page.items, order.Sound)
        (fetchOrders py now shopId platform nanOrder) := by
  have py : Library :=
    { loads := fun _ => .error .json, loadsText := fun _ => .error .json, repr := fun _ => "",
      fromisoformat := fun _ => none, sha256 := fun _ => "", upper := id }
  constructor
  · intro h
    have hclean := (reads_fetchOrders py 0 "" .shopee []).lawful_iff.mp (h py 0 "" .shopee)
    exact hclean
  · intro h
    have hclean := (reads_fetchOrders py 0 "" .shopee nanOrder).lawful_iff.mp (h py 0 "" .shopee)
    rw [answerReadings_nanOrder] at hclean
    obtain ⟨x, hx, hfinite⟩ := hclean (.money (some .nan)) (by simp)
    cases hx
    exact absurd hfinite (by decide)

end CrossPilot.Adapters
