import CrossPilot.Inventory.Push
import CrossPilot.Lib.Groups
import CrossPilot.Sync.Retry

/-!
# A platform that refuses a push

A push of a SKU goes from shop to shop, and the sweep of those that have not heard of their stock for
too long from SKU to SKU. The first shop whose platform refuses a call ends the push, and a refusal
that is worth a retry ends the sweep. The shops that would have come after it are told nothing, and
nothing is written down about them.
-/

namespace CrossPilot

/-- What an adapter raises. -/
structure AdapterError where
  message : String
  decision : RetryDecision
  retryAfterSeconds : Option ℚ := none
  deriving DecidableEq

inductive PushStatus
  | success | failed | laggedZero
  deriving DecidableEq

structure InventoryPushLog where
  shopId : ℕ
  skuId : ℕ
  platformCode : String
  quantity : ℤ
  status : PushStatus
  retryCount : ℕ
  message : String
  deriving DecidableEq

/-- What a push reports. -/
structure PushRun where
  logs : List InventoryPushLog
  retry : Bool := false
  error : String := ""
  decision : RetryDecision := .failFast
  retryAfterSeconds : Option ℚ := none
  zeroed : ℕ := 0
  deriving DecidableEq

/-- What a push meets: the settings, when listings were changed and shops last told, the clock, and
how the calls for a SKU and a shop end, one after the other (`_send`). -/
structure PushCalls where
  settings : PushSettings
  lagSeconds : String → ℤ
  updatedAt : ℕ → Instant
  lastSuccessAt : ℕ → ℕ → Option Instant
  clock : ℕ → ℕ → Instant
  answer : ℕ → ℕ → ℕ → Option AdapterError

/-- A SKU that is not deleted. -/
def SkuExists (d : Db) (skuId : ℕ) : Prop :=
  (d.skus.any fun s => s.id = skuId ∧ s.deleted = false) = true

instance (d : Db) (skuId : ℕ) : Decidable (SkuExists d skuId) :=
  inferInstanceAs (Decidable (_ = true))

/-- The shops of a push, with the listings that have the platform's name of the SKU. -/
def listingsByShop (d : Db) (skuId : ℕ) : List (ℕ × List Listing) :=
  Groups.groups (fun l => if (l.platformSkuId.getD "") = "" then none else some l.shopId)
    (listLinkedForSku d skuId)

/-- `should_push_zero`. -/
def shouldPushZero (lastSuccessAt : Option Instant) (anchor now : Instant) (lagSeconds : ℤ) : Bool :=
  lagSeconds * 1000000 < now - lastSuccessAt.getD anchor

/-- The calls for a shop, from the `n`th on: what was sent, and the error that ended them. -/
def sendChunks (answer : ℕ → Option AdapterError) (message : List String → Sent) :
    ℕ → List (List String) → List Sent × Option AdapterError
  | _, [] => ([], none)
  | n, chunk :: rest =>
    match answer n with
    | some e => ([], some e)
    | none =>
      let (sent, failure) := sendChunks answer message (n + 1) rest
      (message chunk :: sent, failure)

/-- What a shop is to be told. -/
structure ShopPush where
  shop : Shop
  chunks : List (List String)
  quantity : ℤ
  status : PushStatus
  deriving DecidableEq

section push

variable (c : PushCalls) (d : Db) (skuId : ℕ) (sweep : Bool) (retryCount : ℕ)

/-- What the push of a SKU has to tell the shop of a group, if anything. -/
def shopPush (free : ℤ) (shop : Shop) (group : List Listing) :
    Except ServiceError (Option ShopPush) := do
  let quantity ← platformPushQuantity free (c.settings.safetyQty skuId shop.platformCode)
  let anchor := ((group.map fun l => c.updatedAt l.id).min?).getD 0
  let lagged := shouldPushZero (c.lastSuccessAt shop.id skuId) anchor (c.clock skuId shop.id)
    (c.lagSeconds shop.platformCode)
  let chunks := chunkUpdates (group.filterMap Listing.platformSkuId)
    (c.settings.batchLimit shop.platformCode)
  if sweep && !lagged then return none
  else if sweep then return some ⟨shop, chunks, 0, .laggedZero⟩
  else return some ⟨shop, chunks, quantity, .success⟩

/-- The calls of a shop. -/
def ShopPush.calls (p : ShopPush) : List Sent × Option AdapterError :=
  sendChunks (c.answer skuId p.shop.id) (fun chunk => ⟨skuId, p.shop.id, chunk, p.quantity⟩) 0
    p.chunks

/-- `_push_row`. -/
def ShopPush.row (p : ShopPush) : InventoryPushLog :=
  match (p.calls c skuId).2 with
  | some e => ⟨p.shop.id, skuId, p.shop.platformCode, p.quantity, .failed, retryCount,
      Text.truncate 512 e.message⟩
  | none => ⟨p.shop.id, skuId, p.shop.platformCode, p.quantity, p.status, retryCount,
      if p.status = .laggedZero then "滞后已降为 0" else ""⟩

/-- The errors after which a push is tried again. -/
def AdapterError.worthRetry (e : AdapterError) : Bool :=
  e.decision = .retry || e.decision = .retryAfter || e.decision = .deadLetter

/-- The loop of `push_sku` over the shops. What was sent stays sent, also after an error. -/
def pushShops (free : ℤ) : List (ℕ × List Listing) → List InventoryPushLog → ℕ →
    List Sent × Except ServiceError PushRun
  | [], written, zeroed => ([], .ok { logs := written, zeroed := zeroed })
  | (shopId, group) :: rest, written, zeroed =>
    match d.shops.find? fun s => s.id = shopId with
    | none => pushShops free rest written zeroed
    | some shop =>
      match shopPush c skuId sweep free shop group with
      | .error e => ([], .error e)
      | .ok none => pushShops free rest written zeroed
      | .ok (some p) =>
        let (sent, failure) := p.calls c skuId
        let logs := written ++ [p.row c skuId retryCount]
        match failure with
        | some e => (sent, .ok {
            logs := logs
            retry := e.worthRetry
            error := e.message
            decision := e.decision
            retryAfterSeconds := e.retryAfterSeconds
            zeroed := zeroed })
        | none =>
          let (more, run) := pushShops free rest logs
            (if p.status = .laggedZero then zeroed + 1 else zeroed)
          (sent ++ more, run)

/-- `push_sku`. -/
def pushSku : List Sent × Except ServiceError PushRun :=
  if SkuExists d skuId then
    pushShops c d skuId sweep retryCount (freeStock d skuId) (listingsByShop d skuId) [] 0
  else ([], .error .notFound)

/-- The loop of `sweep_lag` over the SKUs. -/
def sweepSkus : List ℕ → List InventoryPushLog → ℕ → List Sent × Except ServiceError PushRun
  | [], logs, zeroed => ([], .ok { logs := logs, zeroed := zeroed })
  | skuId :: rest, logs, zeroed =>
    match pushSku c d skuId true 0 with
    | (sent, .error e) => (sent, .error e)
    | (sent, .ok run) =>
      if run.retry then (sent, .ok {
        logs := logs ++ run.logs
        retry := true
        error := run.error
        decision := run.decision
        retryAfterSeconds := run.retryAfterSeconds
        zeroed := zeroed + run.zeroed })
      else
        let (more, result) := sweepSkus rest (logs ++ run.logs) (zeroed + run.zeroed)
        (sent ++ more, result)

/-- The SKUs of a sweep: those of the first 500 linked listings, each once. -/
def sweptSkus : List ℕ :=
  (((d.listings.filter fun l => l.status = .linked ∧ l.deleted = false).insertionSort
    fun a b => a.id ≤ b.id).take 500 |>.map Listing.skuId).eraseDups

/-- `sweep_lag`. -/
def sweepLag : List Sent × Except ServiceError PushRun := sweepSkus c d (sweptSkus d) [] 0

/-! ### What is to be told -/

/-- What a group has to be told. -/
def duePush (free : ℤ) (g : ℕ × List Listing) : Option ShopPush :=
  match d.shops.find? fun s => s.id = g.1 with
  | none => none
  | some shop =>
    match shopPush c skuId sweep free shop g.2 with
    | .ok p => p
    | .error _ => none

/-- What the push of a SKU has to tell, shop by shop. -/
def duePushes : List ShopPush :=
  (listingsByShop d skuId).filterMap (duePush c d skuId sweep (freeStock d skuId))

/-- The error of the platform, if a call for the shop fails. -/
def ShopPush.failure (p : ShopPush) : Option AdapterError := (p.calls c skuId).2

/-- A shop whose calls do not fail is sent what is due, and the failure of another is written
down. -/
def ShopTold (sent : List Sent) (logs : List InventoryPushLog) (p : ShopPush) : Prop :=
  match p.failure c skuId with
  | none => ∀ chunk ∈ p.chunks, (⟨skuId, p.shop.id, chunk, p.quantity⟩ : Sent) ∈ sent
  | some _ => p.row c skuId retryCount ∈ logs

/-- Every shop that the push of the SKU is for is told. -/
def Isolated (result : List Sent × Except ServiceError PushRun) : Prop :=
  ∃ run, result.2 = .ok run ∧
    ∀ p ∈ duePushes c d skuId sweep, ShopTold c skuId retryCount result.1 run.logs p

end push

/-! ### Which shops are told -/

section told

variable {c : PushCalls} {d : Db} {skuId : ℕ} {sweep : Bool} {retryCount : ℕ}

/-- Calls that do not fail send everything. -/
lemma sendChunks_of_none {answer : ℕ → Option AdapterError} {message : List String → Sent} {n : ℕ}
    {chunks : List (List String)} (h : (sendChunks answer message n chunks).2 = none) :
    (sendChunks answer message n chunks).1 = chunks.map message := by
  induction chunks generalizing n with
  | nil => rfl
  | cons chunk rest ih =>
    cases hanswer : answer n with
    | some e => simp [sendChunks, hanswer] at h
    | none =>
      simp only [sendChunks, hanswer] at h ⊢
      rw [ih h, List.map_cons]

lemma mem_sendChunks {answer : ℕ → Option AdapterError} {message : List String → Sent} {n : ℕ}
    {chunks : List (List String)} {m : Sent} (h : m ∈ (sendChunks answer message n chunks).1) :
    ∃ chunk ∈ chunks, m = message chunk := by
  induction chunks generalizing n with
  | nil => simp [sendChunks] at h
  | cons chunk rest ih =>
    cases hanswer : answer n with
    | some e => simp [sendChunks, hanswer] at h
    | none =>
      simp only [sendChunks, hanswer, List.mem_cons] at h
      rcases h with rfl | h
      · exact ⟨chunk, List.mem_cons_self, rfl⟩
      · obtain ⟨other, hother, hm⟩ := ih h
        exact ⟨other, List.mem_cons_of_mem _ hother, hm⟩

/-- The pushes that are reached: those up to the first that fails. -/
def reached (c : PushCalls) (skuId : ℕ) : List ShopPush → List ShopPush
  | [] => []
  | p :: rest => p :: if p.failure c skuId = none then reached c skuId rest else []

/-- What is sent for some pushes. -/
def sentOf (c : PushCalls) (pushes : List (ℕ × ShopPush)) : List Sent :=
  pushes.flatMap fun x => (x.2.calls c x.1).1

/-- What is written down of some pushes. -/
def rowsOf (c : PushCalls) (retryCount : ℕ) (pushes : List (ℕ × ShopPush)) :
    List InventoryPushLog :=
  pushes.map fun x => x.2.row c x.1 retryCount

/-- The push failed and is to be tried again. -/
def ShopPush.retryDue (c : PushCalls) (skuId : ℕ) (p : ShopPush) : Bool :=
  (p.failure c skuId).any AdapterError.worthRetry

lemma reached_subset (due : List ShopPush) : reached c skuId due ⊆ due := by
  induction due with
  | nil => simp [reached]
  | cons p rest ih =>
    intro q hq
    rw [reached, List.mem_cons] at hq
    rcases hq with rfl | hq
    · exact List.mem_cons_self
    · split_ifs at hq with hfail
      · exact List.mem_cons_of_mem _ (ih hq)
      · cases hq

/-- With the stock that the tables allow, the push of a shop is always computed. -/
lemma shopPush_ok (c : PushCalls) (skuId : ℕ) (sweep : Bool) {free : ℤ} (hfree : 0 ≤ free)
    (shop : Shop) (group : List Listing) :
    ∃ p, shopPush c skuId sweep free shop group = .ok p := by
  rw [shopPush, platformPushQuantity_of_nonneg hfree (c.settings.safetyQty_nonneg _ _)]
  simp only [bind, Except.bind, pure, Except.pure]
  split_ifs <;> exact ⟨_, rfl⟩

lemma shopPush_eq_some {free : ℤ} {shop : Shop} {group : List Listing} {p : ShopPush}
    (h : shopPush c skuId sweep free shop group = .ok (some p)) :
    p.shop = shop ∧ p.chunks = chunkUpdates (group.filterMap Listing.platformSkuId)
      (c.settings.batchLimit shop.platformCode) := by
  rw [shopPush] at h
  cases hquantity : platformPushQuantity free
      (c.settings.safetyQty skuId shop.platformCode) with
  | error e => simp [hquantity, bind, Except.bind] at h
  | ok quantity =>
    simp only [hquantity, bind, Except.bind, pure, Except.pure] at h
    split_ifs at h
    · cases h
    · cases h
      exact ⟨rfl, rfl⟩
    · cases h
      exact ⟨rfl, rfl⟩

/-- The loop reaches the shops up to the first that fails. -/
lemma pushShops_eq (c : PushCalls) (d : Db) (skuId : ℕ) (sweep : Bool) (retryCount : ℕ) {free : ℤ}
    (hfree : 0 ≤ free) (groups : List (ℕ × List Listing)) (written : List InventoryPushLog) (zeroed : ℕ) :
    let told := (reached c skuId (groups.filterMap (duePush c d skuId sweep free))).map (skuId, ·)
    ∃ run, pushShops c d skuId sweep retryCount free groups written zeroed
        = (sentOf c told, .ok run) ∧ run.logs = written ++ rowsOf c retryCount told ∧
      (run.retry = true ↔ ∃ x ∈ told, x.2.retryDue c skuId = true) := by
  induction groups generalizing written zeroed with
  | nil => exact ⟨_, rfl, by simp [reached, rowsOf], by simp [reached]⟩
  | cons g rest ih =>
    obtain ⟨shopId, group⟩ := g
    cases hshop : d.shops.find? fun s => s.id = shopId with
    | none =>
      have hdue : duePush c d skuId sweep free (shopId, group) = none := by
        simp [duePush, hshop]
      simp only [pushShops, hshop, List.filterMap_cons_none hdue]
      exact ih written zeroed
    | some shop =>
      obtain ⟨push, hpush⟩ := shopPush_ok c skuId sweep hfree shop group
      have hdue : duePush c d skuId sweep free (shopId, group) = push := by
        simp [duePush, hshop, hpush]
      cases push with
      | none =>
        simp only [pushShops, hshop, hpush, List.filterMap_cons_none hdue]
        exact ih written zeroed
      | some p =>
        rw [List.filterMap_cons_some hdue]
        cases hfail : p.failure c skuId with
        | some e =>
          have hcalls : (p.calls c skuId).2 = some e := hfail
          simp only [pushShops, hshop, hpush, hcalls, reached, hfail, reduceCtorEq, if_false]
          refine ⟨⟨written ++ [p.row c skuId retryCount], e.worthRetry, e.message, e.decision,
            e.retryAfterSeconds, zeroed⟩, ?_, ?_, ?_⟩
          · simp [sentOf]
          · simp [rowsOf]
          · simp [ShopPush.retryDue, hfail]
        | none =>
          have hcalls : (p.calls c skuId).2 = none := hfail
          obtain ⟨run, hrun, hlogs, hretry⟩ := ih (written ++ [p.row c skuId retryCount])
            (if p.status = .laggedZero then zeroed + 1 else zeroed)
          simp only [pushShops, hshop, hpush, hcalls, reached, hfail, if_true]
          refine ⟨run, ?_, ?_, ?_⟩
          · simp [hrun, sentOf]
          · simp [hlogs, rowsOf]
          · simp [hretry, ShopPush.retryDue, hfail]

lemma row_ids (p : ShopPush) :
    (p.row c skuId retryCount).shopId = p.shop.id ∧ (p.row c skuId retryCount).skuId = skuId := by
  unfold ShopPush.row
  split <;> exact ⟨rfl, rfl⟩

lemma duePush_eq_some {free : ℤ} {g : ℕ × List Listing} {p : ShopPush}
    (h : duePush c d skuId sweep free g = some p) :
    p.shop.id = g.1 ∧ p.chunks = chunkUpdates (g.2.filterMap Listing.platformSkuId)
      (c.settings.batchLimit p.shop.platformCode) := by
  unfold duePush at h
  split at h
  · cases h
  · rename_i shop hshop
    split at h
    · rename_i push hpush
      subst h
      obtain ⟨rfl, hchunks⟩ := shopPush_eq_some hpush
      exact ⟨by simpa using List.find?_some hshop, hchunks⟩
    · cases h

/-- A push tells a shop once. -/
lemma duePushes_distinct :
    (duePushes c d skuId sweep).Pairwise fun p q => p.shop.id ≠ q.shop.id := by
  refine List.pairwise_filterMap.2 ((List.pairwise_map.1 Groups.nodup_groups).imp ?_)
  intro g g' hne p hp q hq heq
  exact hne ((duePush_eq_some hp).1.symm.trans (heq.trans (duePush_eq_some hq).1))

lemma eq_of_shop_eq {p q : ShopPush} (hp : p ∈ duePushes c d skuId sweep)
    (hq : q ∈ duePushes c d skuId sweep) (h : p.shop.id = q.shop.id) : p = q := by
  by_contra hne
  have hsymm : Std.Symm fun p q : ShopPush => p.shop.id ≠ q.shop.id := ⟨fun _ _ h => h.symm⟩
  exact duePushes_distinct.forall hp hq hne h

/-- There is something to be sent to every shop. -/
lemma chunks_ne_nil {p : ShopPush} (h : p ∈ duePushes c d skuId sweep) :
    ∃ chunk, chunk ∈ p.chunks := by
  obtain ⟨⟨shopId, group⟩, hg, hp⟩ := List.mem_filterMap.1 h
  obtain ⟨⟨l, hl, hkey⟩, rfl⟩ := Groups.mem_groups.1 hg
  cases hname : l.platformSkuId with
  | none => simp [hname] at hkey
  | some name =>
    have hmem : name ∈ (Groups.bucket (fun l : Listing =>
        if (l.platformSkuId.getD "") = "" then none else some l.shopId) shopId
          (listLinkedForSku d skuId)).filterMap Listing.platformSkuId :=
      List.mem_filterMap.2 ⟨l, Groups.mem_bucket.2 ⟨hl, hkey⟩, hname⟩
    obtain ⟨chunk, hchunk, -⟩ := mem_chunkUpdates
      (c.settings.batchLimit_pos p.shop.platformCode) hmem
    exact ⟨chunk, (duePush_eq_some hp).2 ▸ hchunk⟩

/-- A shop is told just when its push is among those that were reached. -/
lemma shopTold_iff {pushes : List (ℕ × ShopPush)}
    (hdue : ∀ x ∈ pushes, x.2 ∈ duePushes c d x.1 sweep) {p : ShopPush}
    (hp : p ∈ duePushes c d skuId sweep) :
    ShopTold c skuId retryCount (sentOf c pushes) (rowsOf c retryCount pushes) p ↔
      (skuId, p) ∈ pushes := by
  have hsame : ∀ x ∈ pushes, x.1 = skuId → x.2.shop.id = p.shop.id → (skuId, p) ∈ pushes := by
    rintro ⟨k, q⟩ hx rfl hshop
    rw [← eq_of_shop_eq (hdue _ hx) hp hshop]
    exact hx
  cases hfail : p.failure c skuId with
  | none =>
    simp only [ShopTold, hfail]
    constructor
    · intro h
      obtain ⟨chunk, hchunk⟩ := chunks_ne_nil hp
      obtain ⟨x, hx, hm⟩ := List.mem_flatMap.1 (h chunk hchunk)
      obtain ⟨other, -, heq⟩ := mem_sendChunks hm
      exact hsame x hx (congrArg Sent.skuId heq).symm (congrArg Sent.shopId heq).symm
    · intro h chunk hchunk
      refine List.mem_flatMap.2 ⟨_, h, ?_⟩
      dsimp only
      rw [ShopPush.calls, sendChunks_of_none hfail]
      exact List.mem_map_of_mem hchunk
  | some e =>
    simp only [ShopTold, hfail]
    constructor
    · intro h
      obtain ⟨x, hx, heq⟩ := List.mem_map.1 h
      have hsku := congrArg InventoryPushLog.skuId heq
      have hshop := congrArg InventoryPushLog.shopId heq
      simp only [row_ids] at hsku hshop
      exact hsame x hx hsku hshop
    · intro h
      exact List.mem_map.2 ⟨_, h, rfl⟩

/-- All pushes are reached just when none fails but the last. -/
lemma forall_mem_reached_iff {due : List ShopPush} (hdue : due.Nodup) :
    (∀ p ∈ due, p ∈ reached c skuId due) ↔ due.Pairwise fun p _ => p.failure c skuId = none := by
  induction due with
  | nil => simp
  | cons p rest ih =>
    obtain ⟨hp, hrest⟩ := List.nodup_cons.1 hdue
    rw [List.pairwise_cons, ← ih hrest, reached]
    by_cases hfail : p.failure c skuId = none
    · simp only [hfail, if_true, List.mem_cons]
      constructor
      · intro h
        refine ⟨fun _ _ => trivial, fun q hq => ?_⟩
        rcases h q (.inr hq) with rfl | hq'
        · exact absurd hq hp
        · exact hq'
      · rintro ⟨-, h⟩ q (rfl | hq)
        · exact .inl rfl
        · exact .inr (h q hq)
    · simp only [hfail, if_false, List.mem_singleton]
      constructor
      · intro h
        have hnil : rest = [] := List.eq_nil_iff_forall_not_mem.2 fun q hq =>
          hp (h q (List.mem_cons_of_mem _ hq) ▸ hq)
        simp [hnil]
      · rintro ⟨h, -⟩ q hq
        rcases List.mem_cons.1 hq with rfl | hq
        · rfl
        · exact absurd (h q hq) id

lemma duePushes_nodup : (duePushes c d skuId sweep).Nodup :=
  duePushes_distinct.imp fun hne heq => hne (congrArg (fun p => p.shop.id) heq)

/-! ### One SKU -/

lemma freeStock_nonneg (hstock : ∀ r ∈ d.inventories, r.occupied ≤ r.available) :
    0 ≤ freeStock d skuId := by
  refine Table.total_nonneg fun r hr => ?_
  have hle := hstock r (List.mem_of_mem_filter (List.mem_of_mem_filter hr))
  omega

/-- What a push of a SKU comes to. -/
lemma pushSku_eq (c : PushCalls) (sweep : Bool) (retryCount : ℕ)
    (hstock : ∀ r ∈ d.inventories, r.occupied ≤ r.available) (hsku : SkuExists d skuId) :
    let told := (reached c skuId (duePushes c d skuId sweep)).map (skuId, ·)
    ∃ run, pushSku c d skuId sweep retryCount = (sentOf c told, .ok run) ∧
      run.logs = rowsOf c retryCount told ∧
      (run.retry = true ↔ ∃ x ∈ told, x.2.retryDue c skuId = true) := by
  rw [pushSku, if_pos hsku]
  obtain ⟨run, hrun, hlogs, hretry⟩ := pushShops_eq c d skuId sweep retryCount
    (freeStock_nonneg hstock) (listingsByShop d skuId) [] 0
  exact ⟨run, hrun, hlogs, hretry⟩

lemma isolated_pushSku_iff (hstock : ∀ r ∈ d.inventories, r.occupied ≤ r.available)
    (hsku : SkuExists d skuId) :
    Isolated c d skuId sweep retryCount (pushSku c d skuId sweep retryCount) ↔
      (duePushes c d skuId sweep).Pairwise fun p _ => p.failure c skuId = none := by
  obtain ⟨run, hrun, hlogs, -⟩ := pushSku_eq c sweep retryCount hstock hsku
  have hdue : ∀ x ∈ (reached c skuId (duePushes c d skuId sweep)).map (skuId, ·),
      x.2 ∈ duePushes c d x.1 sweep := by
    intro x hx
    obtain ⟨p, hp, rfl⟩ := List.mem_map.1 hx
    exact reached_subset _ hp
  rw [← forall_mem_reached_iff duePushes_nodup, hrun]
  simp only [Isolated, Except.ok.injEq, exists_eq_left', hlogs]
  refine forall₂_congr fun p hp => (shopTold_iff hdue hp).trans ?_
  simp

/-! ### Many SKUs -/

/-- The pushes that a sweep reaches, with their SKUs. -/
def sweptPushes (c : PushCalls) (d : Db) : List ℕ → List (ℕ × ShopPush)
  | [] => []
  | skuId :: rest =>
    let told := reached c skuId (duePushes c d skuId true)
    told.map (skuId, ·) ++ if told.any (ShopPush.retryDue c skuId) then [] else sweptPushes c d rest

/-- Of a SKU only the last shop fails, and if that is worth a retry, no shop is to be told of the
SKUs after it. -/
def SweepUndisturbed (c : PushCalls) (d : Db) : List ℕ → Prop
  | [] => True
  | skuId :: rest =>
    (duePushes c d skuId true).Pairwise (fun p _ => p.failure c skuId = none) ∧
    ((∃ p ∈ duePushes c d skuId true, p.retryDue c skuId = true) →
      ∀ other ∈ rest, duePushes c d other true = []) ∧
    SweepUndisturbed c d rest

lemma mem_sweptPushes {skus : List ℕ} {x : ℕ × ShopPush} (h : x ∈ sweptPushes c d skus) :
    x.1 ∈ skus ∧ x.2 ∈ duePushes c d x.1 true := by
  induction skus with
  | nil => simp [sweptPushes] at h
  | cons skuId rest ih =>
    rw [sweptPushes, List.mem_append] at h
    rcases h with h | h
    · obtain ⟨p, hp, rfl⟩ := List.mem_map.1 h
      exact ⟨List.mem_cons_self, reached_subset _ hp⟩
    · split_ifs at h
      · cases h
      · exact ⟨List.mem_cons_of_mem _ (ih h).1, (ih h).2⟩

/-- What a sweep comes to. -/
lemma sweepSkus_eq (c : PushCalls)
    (hstock : ∀ r ∈ d.inventories, r.occupied ≤ r.available) {skus : List ℕ}
    (hskus : ∀ skuId ∈ skus, SkuExists d skuId) (logs : List InventoryPushLog) (zeroed : ℕ) :
    ∃ run, sweepSkus c d skus logs zeroed = (sentOf c (sweptPushes c d skus), .ok run) ∧
      run.logs = logs ++ rowsOf c 0 (sweptPushes c d skus) := by
  induction skus generalizing logs zeroed with
  | nil => exact ⟨⟨logs, false, "", .failFast, none, zeroed⟩, rfl, by simp [sweptPushes, rowsOf]⟩
  | cons skuId rest ih =>
    obtain ⟨run, hrun, hlogs, hretry⟩ := pushSku_eq c true 0 hstock (hskus skuId List.mem_cons_self)
    have hany : (reached c skuId (duePushes c d skuId true)).any (ShopPush.retryDue c skuId)
        = run.retry := by
      rw [Bool.eq_iff_iff, List.any_eq_true, hretry]
      simp
    rw [sweepSkus, hrun, sweptPushes, hany]
    cases hcase : run.retry with
    | true =>
      refine ⟨⟨logs ++ run.logs, true, run.error, run.decision, run.retryAfterSeconds,
        zeroed + run.zeroed⟩, ?_, ?_⟩
      · simp [hcase]
      · simp [hlogs]
    | false =>
      obtain ⟨result, hresult, hrest⟩ := ih
        (fun k hk => hskus k (List.mem_cons_of_mem _ hk)) (logs ++ run.logs) (zeroed + run.zeroed)
      refine ⟨result, ?_, ?_⟩
      · simp [hcase, hresult, sentOf]
      · simp [hrest, hlogs, rowsOf]

lemma sweepUndisturbed_of_nothing_due {skus : List ℕ}
    (h : ∀ skuId ∈ skus, duePushes c d skuId true = []) : SweepUndisturbed c d skus := by
  induction skus with
  | nil => trivial
  | cons skuId rest ih =>
    have hnone := h skuId List.mem_cons_self
    refine ⟨by simp [hnone], by simp [hnone], ih fun k hk => h k (List.mem_cons_of_mem _ hk)⟩

/-- All pushes of a sweep are reached just when no failure comes before them. -/
lemma forall_mem_sweptPushes_iff {skus : List ℕ} (hskus : skus.Nodup) :
    (∀ skuId ∈ skus, ∀ p ∈ duePushes c d skuId true, (skuId, p) ∈ sweptPushes c d skus) ↔
      SweepUndisturbed c d skus := by
  induction skus with
  | nil => simp [SweepUndisturbed]
  | cons skuId rest ih =>
    obtain ⟨hnew, hrest⟩ := List.nodup_cons.1 hskus
    -- a push of the first SKU can only be reached with it, any other only after it
    have hfirst : ∀ p, (skuId, p) ∈ sweptPushes c d (skuId :: rest) ↔
        p ∈ reached c skuId (duePushes c d skuId true) := by
      intro p
      rw [sweptPushes, List.mem_append]
      constructor
      · rintro (h | h)
        · simpa using h
        · split_ifs at h
          · cases h
          · exact absurd (mem_sweptPushes h).1 hnew
      · intro h
        exact .inl (List.mem_map_of_mem h)
    have hlater : ∀ k ∈ rest, ∀ p, (k, p) ∈ sweptPushes c d (skuId :: rest) ↔
        (reached c skuId (duePushes c d skuId true)).any (ShopPush.retryDue c skuId) = false ∧
          (k, p) ∈ sweptPushes c d rest := by
      intro k hk p
      have hne : k ≠ skuId := fun heq => hnew (heq ▸ hk)
      rw [sweptPushes, List.mem_append]
      cases hany : (reached c skuId (duePushes c d skuId true)).any (ShopPush.retryDue c skuId) with
      | true => simp [hne.symm]
      | false => simp [hne.symm]
    rw [List.forall_mem_cons, SweepUndisturbed, ← forall_mem_reached_iff duePushes_nodup]
    simp only [hfirst]
    refine and_congr_right fun hall => ?_
    have hany : (reached c skuId (duePushes c d skuId true)).any (ShopPush.retryDue c skuId) = true ↔
        ∃ p ∈ duePushes c d skuId true, p.retryDue c skuId = true := by
      rw [List.any_eq_true]
      constructor
      · rintro ⟨p, hp, hretry⟩
        exact ⟨p, reached_subset _ hp, hretry⟩
      · rintro ⟨p, hp, hretry⟩
        exact ⟨p, hall p hp, hretry⟩
    by_cases hretry : ∃ p ∈ duePushes c d skuId true, p.retryDue c skuId = true
    · have hstop := hany.2 hretry
      constructor
      · intro h
        have hnone : ∀ k ∈ rest, duePushes c d k true = [] := by
          intro k hk
          refine List.eq_nil_iff_forall_not_mem.2 fun p hp => ?_
          have hgo := ((hlater k hk p).1 (h k hk p hp)).1
          rw [hstop] at hgo
          cases hgo
        exact ⟨fun _ => hnone, sweepUndisturbed_of_nothing_due hnone⟩
      · rintro ⟨hnone, -⟩ k hk p hp
        rw [hnone hretry k hk] at hp
        cases hp
    · have hgo : (reached c skuId (duePushes c d skuId true)).any (ShopPush.retryDue c skuId)
          = false := by
        rw [← Bool.not_eq_true, hany]
        exact hretry
      rw [← ih hrest]
      constructor
      · intro h
        exact ⟨fun hr => absurd hr hretry, fun k hk p hp => ((hlater k hk p).1 (h k hk p hp)).2⟩
      · rintro ⟨-, h⟩ k hk p hp
        exact (hlater k hk p).2 ⟨hgo, h k hk p hp⟩

lemma isolated_sweepLag_iff (hstock : ∀ r ∈ d.inventories, r.occupied ≤ r.available)
    (hskus : ∀ skuId ∈ sweptSkus d, SkuExists d skuId) :
    (∀ skuId ∈ sweptSkus d, Isolated c d skuId true 0 (sweepLag c d)) ↔
      SweepUndisturbed c d (sweptSkus d) := by
  obtain ⟨run, hrun, hlogs⟩ := sweepSkus_eq c hstock hskus [] 0
  have hnodup : (sweptSkus d).Nodup := Groups.nodup_eraseDups _
  rw [← forall_mem_sweptPushes_iff hnodup, sweepLag, hrun]
  simp only [Isolated, Except.ok.injEq, exists_eq_left', hlogs, List.nil_append]
  exact forall₂_congr fun skuId _ => forall₂_congr fun p hp =>
    shopTold_iff (fun x hx => (mem_sweptPushes hx).2) hp

/-- **Who is told although others fail.** A push tells every shop that does not fail and writes down
the failures of the others just when no shop fails but the last one. A sweep does so for every SKU
just when of each SKU only the last shop fails, and nobody is to be told anything after a failure that
is worth a retry. -/
theorem isolated_iff (c : PushCalls) (d : Db)
    (hstock : ∀ r ∈ d.inventories, r.occupied ≤ r.available) :
    (∀ skuId sweep retryCount, SkuExists d skuId →
      (Isolated c d skuId sweep retryCount (pushSku c d skuId sweep retryCount) ↔
        (duePushes c d skuId sweep).Pairwise fun p _ => p.failure c skuId = none)) ∧
    ((∀ skuId ∈ sweptSkus d, SkuExists d skuId) →
      ((∀ skuId ∈ sweptSkus d, Isolated c d skuId true 0 (sweepLag c d)) ↔
        SweepUndisturbed c d (sweptSkus d))) :=
  ⟨fun _ _ _ hsku => isolated_pushSku_iff hstock hsku,
    fun hskus => isolated_sweepLag_iff hstock hskus⟩

end told

/-! ### Two shops -/

/-- A SKU that two shops sell. -/
def twoShops : Db where
  warehouses := [{ id := 3, isDefault := true }]
  inventories := [{ id := 1, skuId := 2, warehouseId := 3, available := 5 }]
  skus := [{ id := 2 }]
  listings :=
    [{ id := 7, skuId := 2, shopId := 9, platformSkuId := some "A", status := .linked },
      { id := 8, skuId := 2, shopId := 10, platformSkuId := some "B", status := .linked }]
  shops := [{ id := 9, platformCode := "SHOPEE" }, { id := 10, platformCode := "LAZADA" }]

/-- The platform of one shop answers every call with a timeout. -/
def downAt (shopId : ℕ) : PushCalls where
  settings := noSafety
  lagSeconds _ := 900
  updatedAt _ := 0
  lastSuccessAt _ _ := none
  clock _ _ := 1000000000
  answer _ shop _ := if shop = shopId then some ⟨"timeout", .retry, none⟩ else none

/-- The second shop fails: the first is told, and the failure is written down. -/
theorem isolated_iff_downAt :
    (Isolated (downAt 10) twoShops 2 false 0 (pushSku (downAt 10) twoShops 2 false 0) ↔
      (duePushes (downAt 10) twoShops 2 false).Pairwise fun p _ =>
        p.failure (downAt 10) 2 = none) ∧
    ((∀ skuId ∈ sweptSkus twoShops, Isolated (downAt 10) twoShops skuId true 0
        (sweepLag (downAt 10) twoShops)) ↔
      SweepUndisturbed (downAt 10) twoShops (sweptSkus twoShops)) :=
  ⟨(isolated_iff (downAt 10) twoShops (by decide)).1 2 false 0 (by decide),
    (isolated_iff (downAt 10) twoShops (by decide)).2 (by decide +kernel)⟩

/-- The first shop fails: the second, whose platform is well, is sent nothing. -/
theorem not_isolated_downAt :
    ¬ Isolated (downAt 9) twoShops 2 false 0 (pushSku (downAt 9) twoShops 2 false 0) ∧
    (pushSku (downAt 9) twoShops 2 false 0).1 = [] := by
  refine ⟨?_, by decide +kernel⟩
  rw [isolated_pushSku_iff (by decide) (by decide)]
  decide +kernel

end CrossPilot
