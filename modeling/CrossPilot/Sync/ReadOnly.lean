import CrossPilot.Finance.Tables
import CrossPilot.Lib.Decimals
import CrossPilot.Lib.Optional
import CrossPilot.Sync.Cursor

/-!
# The syncs of ads and of messages

The ads and the messages of a shop are pulled from their first page on and stored, and the run is
written down as a success. The loop over the pages ends at a page without a next cursor, but also at
the limit of pages and at a cursor that comes again, and it does not tell which of them it was
(`success_iff`). The order sync has the same loop, and tells.
-/

namespace CrossPilot.ReadOnly

open Pages

/-! ### The pages -/

section pages

variable {α ε : Type}

/-- The loop of `_pull`. `fetch n` is the answer to the `n`th call. -/
def pull (fetch : ℕ → Option String → Except ε (Page α)) :
    ℕ → Option String → List String → List (Answer α) → Except ε (List (Answer α))
  | 0, _, _, answers => .ok answers
  | n + 1, cursor, seen, answers =>
    match fetch answers.length cursor with
    | .error e => .error e
    | .ok page =>
      match page.next with
      | none => .ok (answers ++ [⟨cursor, page⟩])
      | some next =>
        if next ∈ seen then .ok (answers ++ [⟨cursor, page⟩])
        else pull fetch n (some next) (next :: seen) (answers ++ [⟨cursor, page⟩])

/-- The answers are those of the platform, from the `k`th call on. -/
def Fetched (fetch : ℕ → Option String → Except ε (Page α)) (k : ℕ) (answers : List (Answer α)) :
    Prop :=
  ∀ i a, answers[i]? = some a → fetch (k + i) a.cursor = .ok a.page

/-- The cursors that the answers name. -/
def named (answers : List (Answer α)) : List String := answers.filterMap fun a => a.page.next

/-- Within so many pages the platform comes to one without a next cursor, and no cursor comes twice. -/
def EndsInTime (fetch : ℕ → Option String → Except ε (Page α)) (maxPages : ℕ) : Prop :=
  ∃ answers, Leads none answers none ∧ Fetched fetch 0 answers ∧ answers.length ≤ maxPages ∧
    (named answers).Nodup

variable {fetch : ℕ → Option String → Except ε (Page α)} {n : ℕ} {cursor : Option String}
  {seen : List String} {pre new all : List (Answer α)} {page : Page α} {next : String}

lemma fetched_cons {k : ℕ} {a : Answer α} :
    Fetched fetch k (a :: new) ↔ fetch k a.cursor = .ok a.page ∧ Fetched fetch (k + 1) new := by
  constructor
  · intro h
    refine ⟨h 0 a rfl, fun i b hb => ?_⟩
    rw [add_assoc, add_comm 1 i]
    exact h (i + 1) b hb
  · rintro ⟨hfirst, hrest⟩ i b hb
    cases i with
    | zero =>
      obtain rfl : a = b := Option.some.inj hb
      exact hfirst
    | succ i =>
      rw [add_comm i 1, ← add_assoc]
      exact hrest i b hb

lemma fetched_nil {k : ℕ} : Fetched fetch k ([] : List (Answer α)) := fun i a h => by simp at h

/-- The answers lead to where the last of them does. -/
lemma next_of_leads {d : Option String} (h : Leads cursor new d) :
    new.getLast?.map (fun a => a.page.next) = some d := by
  induction h with
  | last c page => rfl
  | more hd hnext hrest ih =>
    rw [List.getLast?_cons_of_ne_nil hrest.ne_nil]
    exact ih

/-- What a run of the loop has asked for. When the answers lead to the end, no cursor was named
twice. -/
structure Asked (fetch : ℕ → Option String → Except ε (Page α)) (n k : ℕ) (cursor : Option String)
    (seen : List String) (new : List (Answer α)) : Prop where
  fetched : Fetched fetch k new
  length_le : new.length ≤ n
  nodup : Leads cursor new none → (named new).Nodup
  fresh : Leads cursor new none → ∀ c ∈ named new, c ∉ seen

/-- A single page leads to the end just when it names no cursor. -/
lemma leads_singleton {d : Option String} : Leads cursor [⟨cursor, page⟩] d ↔ page.next = d := by
  constructor
  · intro h
    cases h with
    | last => rfl
    | more _ _ hrest => cases hrest
  · rintro rfl
    exact .last cursor page

lemma head_cursor_of_leads {c d : Option String} {a : Answer α}
    (h : Leads c (a :: new) d) : a.cursor = c := by
  generalize hanswers : a :: new = answers at h
  cases h with
  | last => rw [(List.cons.inj hanswers).1]
  | more => rw [(List.cons.inj hanswers).1]

lemma leads_cons {d : Option String} (hnew : new ≠ []) :
    Leads cursor (⟨cursor, page⟩ :: new) d ↔ page.next ≠ none ∧ Leads page.next new d := by
  constructor
  · intro h
    cases h with
    | last => exact absurd rfl hnew
    | more hd hnext hrest =>
      rw [hnext]
      exact ⟨hd, hrest⟩
  · rintro ⟨hd, hrest⟩
    exact .more hd rfl hrest

lemma Asked.single (hfetch : fetch pre.length cursor = .ok page) :
    Asked fetch (n + 1) pre.length cursor seen [⟨cursor, page⟩] where
  fetched := fetched_cons.mpr ⟨hfetch, fetched_nil⟩
  length_le := by simp
  nodup := fun h => by simp [named, leads_singleton.mp h]
  fresh := fun h => by simp [named, leads_singleton.mp h]

/-- What a loop that ends well has asked for. -/
lemma pull_spec (h : pull fetch n cursor seen pre = .ok all) :
    ∃ new, all = pre ++ new ∧ Asked fetch n pre.length cursor seen new := by
  induction n generalizing cursor seen pre with
  | zero =>
    cases h
    exact ⟨[], by simp, ⟨fetched_nil, by simp, fun _ => by simp [named], fun _ => by simp [named]⟩⟩
  | succ n ih =>
    simp only [pull] at h
    split at h
    · cases h
    · next page hfetch =>
      split at h
      · next hnext =>
        cases h
        exact ⟨_, rfl, Asked.single hfetch⟩
      · next c hnext =>
        split at h
        · next hseen =>
          cases h
          exact ⟨_, rfl, Asked.single hfetch⟩
        · next hseen =>
          obtain ⟨new, rfl, hasked⟩ := ih h
          refine ⟨(⟨cursor, page⟩ : Answer α) :: new, by simp, ?_⟩
          have hlength : (pre ++ [(⟨cursor, page⟩ : Answer α)]).length = pre.length + 1 := by simp
          rw [hlength] at hasked
          have hleads : Leads cursor (⟨cursor, page⟩ :: new) none → Leads (some c) new none := by
            intro hlead
            have hne : new ≠ [] := by
              rintro rfl
              rw [leads_singleton, hnext] at hlead
              cases hlead
            rw [leads_cons hne, hnext] at hlead
            exact hlead.2
          have hnamed : named (⟨cursor, page⟩ :: new) = c :: named new := by simp [named, hnext]
          refine ⟨fetched_cons.mpr ⟨hfetch, hasked.fetched⟩, by simpa using hasked.length_le, ?_, ?_⟩
          · intro hlead
            rw [hnamed, List.nodup_cons]
            exact ⟨fun hc => hasked.fresh (hleads hlead) c hc (by simp), hasked.nodup (hleads hlead)⟩
          · intro hlead d hd
            rw [hnamed] at hd
            obtain rfl | hd := List.mem_cons.mp hd
            · exact hseen
            · intro hmem
              exact hasked.fresh (hleads hlead) d hd (List.mem_cons_of_mem _ hmem)

/-- Pages that come to an end in time, without a cursor that comes again, are all asked for. -/
lemma pull_of_leads (hleads : Leads cursor new none) (hfetched : Fetched fetch pre.length new)
    (hlength : new.length ≤ n) (hnodup : (named new).Nodup) (hfresh : ∀ c ∈ named new, c ∉ seen) :
    pull fetch n cursor seen pre = .ok (pre ++ new) := by
  induction new generalizing n cursor seen pre with
  | nil => cases hleads
  | cons a new ih =>
    obtain ⟨n, rfl⟩ : ∃ m, n = m + 1 :=
      Nat.exists_eq_succ_of_ne_zero (Nat.ne_of_gt (lt_of_lt_of_le (by simp) hlength))
    obtain ⟨hfetch, hrest⟩ := fetched_cons.mp hfetched
    obtain ⟨c, page⟩ := a
    obtain rfl : c = cursor := head_cursor_of_leads hleads
    simp only [pull, hfetch]
    by_cases hnew : new = []
    · subst hnew
      simp only [leads_singleton.mp hleads]
    · obtain ⟨hne, hleads⟩ := (leads_cons hnew).mp hleads
      obtain ⟨d, hd⟩ := Option.ne_none_iff_exists'.mp hne
      have hnamed : named (⟨c, page⟩ :: new) = d :: named new := by simp [named, hd]
      rw [hnamed] at hnodup hfresh
      rw [List.nodup_cons] at hnodup
      rw [hd] at hleads
      simp only [hd, if_neg (hfresh d (by simp))]
      have hpull := @ih n (some d) (d :: seen) (pre ++ [⟨c, page⟩]) hleads
        (by simpa using hrest) (by simpa using hlength) hnodup.2 (by
          intro e he
          rw [List.mem_cons, not_or]
          refine ⟨?_, hfresh e (List.mem_cons_of_mem _ he)⟩
          rintro rfl
          exact hnodup.1 he)
      rw [hpull, List.append_assoc, List.singleton_append]

/-- A loop that ends well has read everything just when the platform comes to an end in time. -/
theorem leads_iff_endsInTime (h : pull fetch n none [] [] = .ok all) :
    Leads none all none ↔ EndsInTime fetch n := by
  obtain ⟨new, hnew, hasked⟩ := pull_spec h
  obtain rfl : all = new := hnew
  constructor
  · intro hleads
    exact ⟨all, hleads, hasked.fetched, hasked.length_le, hasked.nodup hleads⟩
  · rintro ⟨answers, hleads, hfetched, hlength, hnodup⟩
    have hpull : pull fetch n none [] [] = .ok ([] ++ answers) :=
      pull_of_leads hleads hfetched hlength hnodup (by simp)
    obtain rfl : answers = all := Except.ok.inj (hpull.symm.trans h)
    exact hleads

end pages

/-! ### The tasks -/

inductive SyncTrigger
  | manual | scheduled
  deriving DecidableEq

/-- How a run has ended. A run that was cut off is `partly` done. -/
inductive SyncStatus
  | running | success | failed | partly
  deriving DecidableEq

/-- A run, as it is written down. -/
structure SyncTask (ν : Type) where
  id : ℕ
  shopId : ℕ
  triggerType : SyncTrigger
  status : SyncStatus
  startedAt : Instant
  finishedAt : Instant
  since : Option Instant := none
  upTo : Option Instant := none
  summary : Option ν
  idempotencyKey : Option String

/-- A shop, and whether there is a credential for it. -/
structure BoundShop where
  id : ℕ
  platformCode : String
  active : Bool
  credential : Bool

/-- `_clean_key`. -/
def cleanKey (value : Option String) : Except ServiceError (Option String) :=
  match value.map Text.strip with
  | none | some "" => .ok none
  | some cleaned =>
    if 128 < cleaned.length then .error (.paramInvalid "幂等键过长") else .ok (some cleaned)

/-- What an earlier run with the same key has answered. -/
def replay {ν : Type} (what : String) (tasks : List (SyncTask ν)) :
    Option String → Except ServiceError (Option ν)
  | none => .ok none
  | some key =>
    match tasks.find? fun t => t.idempotencyKey = some key with
    | none => .ok none
    | some existing =>
      match existing.status, existing.summary with
      | .success, some view => .ok (some view)
      | _, _ => .error (.app 10005 ("相同幂等键的" ++ what ++ "同步不能重复执行"))

/-- The shop of a sync. -/
def shopToSync (what : String) (shops : List BoundShop) (shopId : ℕ) :
    Except ServiceError BoundShop :=
  match shops.find? fun s => s.id = shopId with
  | none => .error .notFound
  | some shop =>
    if !shop.active then .error (.app 40201 ("店铺当前不能同步" ++ what))
    else if !shop.credential then .error (.app 40201 ("店铺还没有授权，不能同步" ++ what))
    else .ok shop

/-! ### Messages -/

/-- A time, and whether it has a zone. -/
structure Stamp where
  clock : Instant
  aware : Bool := true

/-- A message, as an adapter reads it. -/
structure UnifiedMessage where
  platformMessageId : String
  platformOrderId : Option String := none
  buyerId : Option String := none
  buyerName : Option String := none
  content : String
  lang : Option String := none
  receivedAt : Stamp
  slaDeadline : Option Stamp := none
  consoleUrl : String

inductive MessageStatus
  | unread | read
  deriving DecidableEq

structure CsMessage where
  id : ℕ
  shopId : ℕ
  platformCode : String
  platformMessageId : String
  platformOrderId : Option String
  orderId : Option ℕ
  buyerId : Option String
  buyerName : Option String
  content : String
  lang : Option String
  status : MessageStatus
  slaDeadline : Instant
  receivedAt : Stamp
  consoleUrl : String

structure CsSyncView where
  taskId : ℕ
  shopId : ℕ
  messages : ℕ

/-- The tables that the sync of messages writes, and the next id. -/
structure CsDb where
  messages : List CsMessage := []
  tasks : List (SyncTask CsSyncView) := []
  nextId : ℕ

/-- What the sync of messages meets: the settings, the shops and orders, the clock, and the answers of
the platform. `accepts` are the checks of the table. -/
structure CsWorld where
  maxPages : ℕ
  slaHours : String → ℤ
  shops : List BoundShop
  findOrder : ℕ → String → Option ℕ
  accepts : CsMessage → Bool
  startedAt : Instant
  finishedAt : Instant
  fetchMessages : ℕ → Option String → Except String (Page UnifiedMessage)

/-- `resolve_deadline`. -/
def resolveDeadline (received : Stamp) (supplied : Option Stamp) (hours : ℤ) :
    Except String Instant :=
  if !received.aware then .error "消息时间必须带时区"
  else
    match supplied with
    | some deadline =>
      if !deadline.aware then .error "SLA 截止时间必须带时区" else .ok deadline.clock
    | none =>
      if hours ≤ 0 then .error "SLA 小时数必须为正" else .ok (received.clock + hours * 3600000000)

section cs

variable (w : CsWorld) (shop : BoundShop)

/-- The rows with one that is new, or that takes the place of the row that is there. -/
def put {ρ : Type} (isOf : ρ → Bool) (row : ρ) (rows : List ρ) : List ρ :=
  if rows.any isOf then rows.map fun r => if isOf r then row else r else rows ++ [row]

/-- The row of a message. -/
def CsMessage.isOf (shopId : ℕ) (platformMessageId : String) (row : CsMessage) : Bool :=
  row.shopId = shopId ∧ row.platformMessageId = platformMessageId

/-- The row of a message after it has come. -/
def messageRow (db : CsDb) (item : UnifiedMessage) (deadline : Instant) : CsMessage :=
  let existing := db.messages.find? (CsMessage.isOf shop.id item.platformMessageId)
  { id := (existing.map CsMessage.id).getD db.nextId
    shopId := shop.id
    platformCode := (existing.map CsMessage.platformCode).getD shop.platformCode
    platformMessageId := item.platformMessageId
    platformOrderId := item.platformOrderId
    orderId := if item.platformOrderId.getD "" = "" then none
      else item.platformOrderId.bind (w.findOrder shop.id)
    buyerId := item.buyerId
    buyerName := item.buyerName
    content := item.content
    lang := item.lang
    status := match existing with
      | none => .unread
      | some r => if r.content ≠ item.content then .unread else r.status
    slaDeadline := deadline
    receivedAt := (existing.map CsMessage.receivedAt).getD item.receivedAt
    consoleUrl := item.consoleUrl }

/-- One turn of the loop of `_store`. -/
def storeMessage (db : CsDb) (item : UnifiedMessage) : Except ServiceError CsDb := do
  let deadline ← (resolveDeadline item.receivedAt item.slaDeadline
    (w.slaHours shop.platformCode)).mapError .paramInvalid
  let isOf := CsMessage.isOf shop.id item.platformMessageId
  let row := messageRow w shop db item deadline
  let nextId := if db.messages.any isOf then db.nextId else db.nextId + 1
  if w.accepts row then
    return { db with messages := put isOf row db.messages, nextId := nextId }
  else .error (.integrity "cs_message")

/-- `sync`, of the messages. -/
def syncMessages (shopId : ℕ) (trigger : SyncTrigger) (idempotencyKey : Option String) (db : CsDb) :
    Except ServiceError (CsSyncView × CsDb) := do
  let key ← cleanKey idempotencyKey
  match ← replay "客服" db.tasks key with
  | some view => return (view, db)
  | none =>
    let shop ← shopToSync "消息" w.shops shopId
    let answers ← (pull w.fetchMessages w.maxPages none [] []).mapError (.app 30004)
    let stored ← (itemsOf answers).foldlM (storeMessage w shop) db
    let view : CsSyncView := ⟨stored.nextId, shop.id, (itemsOf answers).length⟩
    let task : SyncTask CsSyncView := {
      id := stored.nextId
      shopId := shop.id
      triggerType := trigger
      status := .success
      startedAt := w.startedAt
      finishedAt := w.finishedAt
      summary := some view
      idempotencyKey := key }
    return (view, { stored with tasks := stored.tasks ++ [task], nextId := stored.nextId + 1 })

end cs

/-! ### Ads -/

structure UnifiedAdKeyword where
  keyword : String
  impressions : ℤ
  clicks : ℤ
  spend : ℚ
  sales : ℚ
  orders : ℤ

structure UnifiedAdDay where
  statDate : Day
  impressions : ℤ
  clicks : ℤ
  spend : ℚ
  sales : ℚ
  orders : ℤ
  currency : String
  keywords : List UnifiedAdKeyword := []

structure UnifiedAdCampaign where
  platformCampaignId : String
  name : String
  campaignType : String
  status : String
  currency : String
  platformSkuId : Option String := none
  days : List UnifiedAdDay := []

structure AdCampaign where
  id : ℕ
  shopId : ℕ
  platformCode : String
  platformCampaignId : String
  name : String
  campaignType : String
  status : String
  currency : String
  skuId : Option ℕ
  platformSkuId : String

inductive Suggestion
  | none | noSales | acosAboveMargin | marginMissing
  deriving DecidableEq

structure DayMetrics where
  impressions : ℤ
  clicks : ℤ
  orders : ℤ
  spend : ℚ
  sales : ℚ
  ctr : Option ℚ
  acos : Option ℚ
  roas : Option ℚ
  cvr : Option ℚ
  grossMargin : Option ℚ
  lossFlag : Bool
  suggestionCode : Suggestion

structure AdMetricDaily where
  statDate : Day
  campaignId : ℕ
  shopId : ℕ
  currency : String
  metrics : DayMetrics

structure AdKeywordMetric where
  statDate : Day
  campaignId : ℕ
  shopId : ℕ
  keyword : String
  impressions : ℤ
  clicks : ℤ
  orders : ℤ
  spend : ℚ
  sales : ℚ
  currency : String
  suggestNegative : Bool

structure AdsSyncView where
  taskId : ℕ
  shopId : ℕ
  campaigns : ℕ
  days : ℕ
  keywords : ℕ
  lossCount : ℕ

/-- The tables that the sync of ads writes, and the next id. -/
structure AdsDb where
  campaigns : List AdCampaign := []
  metrics : List AdMetricDaily := []
  keywords : List AdKeywordMetric := []
  tasks : List (SyncTask AdsSyncView) := []
  nextId : ℕ

/-- What the sync of ads meets. `margin` is the gross margin of a SKU in a shop on a day, from the
stored profits. The checks of the tables are given. -/
structure AdsWorld where
  maxPages : ℕ
  lookbackDays : ℤ
  maxDays : ℤ
  shops : List BoundShop
  linkedSkuId : ℕ → String → Option ℕ
  margin : ℕ → ℕ → Day → String → Option ℚ
  acceptsCampaign : AdCampaign → Bool
  acceptsDay : AdMetricDaily → Bool
  acceptsKeyword : AdKeywordMetric → Bool
  today : Day
  startedAt : Instant
  finishedAt : Instant
  fetchAds : Day → Day → ℕ → Option String → Except String (Page UnifiedAdCampaign)

/-- `ratio`. Nothing is a share of zero. -/
def ratio (numerator denominator : ℚ) : Option ℚ :=
  if denominator = 0 then none else some (Decimals.quantize 6 (numerator / denominator))

/-- `_loss`. -/
def loss (spend sales : ℚ) (acos grossMargin : Option ℚ) : Bool × Suggestion :=
  if spend ≤ 0 then (false, .none)
  else if sales = 0 then (true, .noSales)
  else
    match grossMargin with
    | none => (false, .marginMissing)
    | some margin =>
      if acos.any fun share => margin < share then (true, .acosAboveMargin) else (false, .none)

def planDay (impressions clicks orders : ℤ) (spend sales : ℚ) (grossMargin : Option ℚ) :
    DayMetrics :=
  let spend := Decimals.quantize 6 spend
  let sales := Decimals.quantize 6 sales
  let acos := ratio spend sales
  let (lossFlag, suggestion) := loss spend sales acos grossMargin
  ⟨impressions, clicks, orders, spend, sales, ratio clicks impressions, acos, ratio sales spend,
    ratio orders clicks, grossMargin.map (Decimals.quantize 6), lossFlag, suggestion⟩

/-- `suggest_negative`. -/
def suggestNegative (spend : ℚ) (orders : ℤ) : Bool := 0 < spend ∧ orders = 0

/-- `_sync_window`. -/
def syncWindow (w : AdsWorld) (dateFrom dateTo : Option Day) : Except ServiceError (Day × Day) :=
  let last := dateTo.getD w.today
  let first := dateFrom.getD (last - (max w.lookbackDays 1 - 1))
  if last < first then .error (.paramInvalid "开始日期不能晚于结束日期")
  else if w.maxDays < last - first + 1 then .error (.paramInvalid "日期区间超过配置上限")
  else .ok (first, last)

section ads

variable (w : AdsWorld) (shop : BoundShop)

def AdCampaign.isOf (shopId : ℕ) (platformCampaignId : String) (row : AdCampaign) : Bool :=
  row.shopId = shopId ∧ row.platformCampaignId = platformCampaignId

def AdMetricDaily.isOf (campaignId : ℕ) (statDate : Day) (row : AdMetricDaily) : Bool :=
  row.campaignId = campaignId ∧ row.statDate = statDate

def AdKeywordMetric.isOf (campaignId : ℕ) (keyword : String) (statDate : Day)
    (row : AdKeywordMetric) : Bool :=
  row.campaignId = campaignId ∧ row.keyword = keyword ∧ row.statDate = statDate

/-- `_upsert_campaign`. -/
def upsertCampaign (db : AdsDb) (item : UnifiedAdCampaign) (skuId : Option ℕ) :
    Except ServiceError (AdCampaign × AdsDb) :=
  let isOf := AdCampaign.isOf shop.id item.platformCampaignId
  let current := db.campaigns.find? isOf
  let row : AdCampaign := {
    id := (current.map AdCampaign.id).getD db.nextId
    shopId := shop.id
    platformCode := (current.map AdCampaign.platformCode).getD shop.platformCode
    platformCampaignId := item.platformCampaignId
    name := item.name
    campaignType := item.campaignType
    status := item.status
    currency := item.currency
    skuId := skuId
    platformSkuId := item.platformSkuId.getD "" }
  let nextId := if current.isSome then db.nextId else db.nextId + 1
  if w.acceptsCampaign row then
    .ok (row, { db with campaigns := put isOf row db.campaigns, nextId := nextId })
  else .error (.integrity "ad_campaign")

/-- `_upsert_day`. -/
def upsertDay (campaign : AdCampaign) (statDate : Day) (currency : String) (planned : DayMetrics)
    (db : AdsDb) : Except ServiceError AdsDb :=
  let isOf := AdMetricDaily.isOf campaign.id statDate
  let shopId := ((db.metrics.find? isOf).map AdMetricDaily.shopId).getD shop.id
  let row : AdMetricDaily := ⟨statDate, campaign.id, shopId, currency, planned⟩
  if w.acceptsDay row then .ok { db with metrics := put isOf row db.metrics }
  else .error (.integrity "ad_metric_daily")

/-- `_upsert_keyword`. -/
def upsertKeyword (campaign : AdCampaign) (day : UnifiedAdDay) (db : AdsDb)
    (keyword : UnifiedAdKeyword) : Except ServiceError AdsDb :=
  let isOf := AdKeywordMetric.isOf campaign.id keyword.keyword day.statDate
  let shopId := ((db.keywords.find? isOf).map AdKeywordMetric.shopId).getD shop.id
  let row : AdKeywordMetric := ⟨day.statDate, campaign.id, shopId, keyword.keyword,
    keyword.impressions, keyword.clicks, keyword.orders, keyword.spend, keyword.sales, day.currency,
    suggestNegative keyword.spend keyword.orders⟩
  if w.acceptsKeyword row then .ok { db with keywords := put isOf row db.keywords }
  else .error (.integrity "ad_keyword_metric")

/-- What has been stored so far. -/
structure AdCounts where
  campaigns : ℕ := 0
  days : ℕ := 0
  keywords : ℕ := 0
  losses : ℕ := 0

/-- A day of a campaign in the loop of `_store`. Days outside the window are passed over. -/
def storeDay (first last : Day) (campaign : AdCampaign) (skuId : Option ℕ) (s : AdCounts × AdsDb)
    (day : UnifiedAdDay) : Except ServiceError (AdCounts × AdsDb) :=
  if day.statDate < first ∨ last < day.statDate then .ok s
  else do
    let margin := skuId.bind fun id => w.margin id shop.id day.statDate day.currency
    let planned := planDay day.impressions day.clicks day.orders day.spend day.sales margin
    let db ← upsertDay w shop campaign day.statDate day.currency planned s.2
    let db ← day.keywords.foldlM (upsertKeyword w shop campaign day) db
    let counts : AdCounts := {
      campaigns := s.1.campaigns
      days := s.1.days + 1
      keywords := s.1.keywords + day.keywords.length
      losses := s.1.losses + if planned.lossFlag then 1 else 0 }
    return (counts, db)

/-- One turn of the loop of `_store`. -/
def storeCampaign (first last : Day) (s : AdCounts × AdsDb) (item : UnifiedAdCampaign) :
    Except ServiceError (AdCounts × AdsDb) := do
  let skuId := if item.platformSkuId.getD "" = "" then none
    else item.platformSkuId.bind (w.linkedSkuId shop.id)
  let (campaign, db) ← upsertCampaign w shop s.2 item skuId
  item.days.foldlM (storeDay w shop first last campaign skuId)
    ({ s.1 with campaigns := s.1.campaigns + 1 }, db)

/-- `sync`, of the ads. -/
def syncAds (shopId : ℕ) (dateFrom dateTo : Option Day) (trigger : SyncTrigger)
    (idempotencyKey : Option String) (db : AdsDb) : Except ServiceError (AdsSyncView × AdsDb) := do
  let (first, last) ← syncWindow w dateFrom dateTo
  let key ← cleanKey idempotencyKey
  match ← replay "广告" db.tasks key with
  | some view => return (view, db)
  | none =>
    let shop ← shopToSync "广告" w.shops shopId
    let answers ← (pull (w.fetchAds first last) w.maxPages none [] []).mapError (.app 30008)
    let (counts, stored) ← (itemsOf answers).foldlM (storeCampaign w shop first last) ({}, db)
    let view : AdsSyncView := ⟨stored.nextId, shop.id, counts.campaigns, counts.days,
      counts.keywords, counts.losses⟩
    let task : SyncTask AdsSyncView := {
      id := stored.nextId
      shopId := shop.id
      triggerType := trigger
      status := .success
      startedAt := w.startedAt
      finishedAt := w.finishedAt
      since := some (first * 86400000000)
      upTo := some (last * 86400000000 + 86399999999)
      summary := some view
      idempotencyKey := key }
    return (view, { stored with tasks := stored.tasks ++ [task], nextId := stored.nextId + 1 })

end ads

/-! ### What is stored stays -/

section put

variable {ρ : Type} {isOf p : ρ → Bool} {row : ρ} {rows : List ρ}

lemma mem_put {r : ρ} (h : r ∈ put isOf row rows) : r = row ∨ r ∈ rows ∧ isOf r = false := by
  rw [put] at h
  split at h
  · obtain ⟨s, hs, hr⟩ := List.mem_map.mp h
    split at hr
    · exact .inl hr.symm
    · next hne =>
      subst hr
      exact .inr ⟨hs, by simpa using hne⟩
  · next hnone =>
    obtain hr | hr := List.mem_append.mp h
    · refine .inr ⟨hr, ?_⟩
      simp only [List.any_eq_true, not_exists, not_and, Bool.not_eq_true] at hnone
      exact hnone r hr
    · exact .inl (by simpa using hr)

lemma row_mem_put : row ∈ put isOf row rows := by
  rw [put]
  split
  · next hany =>
    obtain ⟨r, hr, his⟩ := List.any_eq_true.mp hany
    exact List.mem_map.mpr ⟨r, hr, if_pos his⟩
  · simp

lemma mem_put_of_mem {r : ρ} (h : r ∈ rows) (hne : isOf r = false) : r ∈ put isOf row rows := by
  rw [put]
  split
  · exact List.mem_map.mpr ⟨r, h, by simp [hne]⟩
  · exact List.mem_append_left _ h

/-- What there is of a kind is still there when a row of another kind is put, or of the same. -/
lemma any_put (hrow : ∀ r, isOf r → p r → p row) (h : rows.any p = true) :
    (put isOf row rows).any p = true := by
  obtain ⟨r, hr, hp⟩ := List.any_eq_true.mp h
  refine List.any_eq_true.mpr ?_
  cases his : isOf r with
  | false => exact ⟨r, mem_put_of_mem hr his, hp⟩
  | true => exact ⟨row, row_mem_put, hrow r his hp⟩

lemma any_put_self (h : isOf row = true) : (put isOf row rows).any isOf = true :=
  List.any_eq_true.mpr ⟨row, row_mem_put, h⟩

end put

section messages

variable {w : CsWorld} {shop : BoundShop} {db db' : CsDb}

/-- The message is in the table. -/
def HasMessage (shopId : ℕ) (item : UnifiedMessage) (db : CsDb) : Prop :=
  db.messages.any (CsMessage.isOf shopId item.platformMessageId) = true

/-- Nothing is lost on the way. -/
structure CsDb.Grows (db db' : CsDb) : Prop where
  messages : ∀ shopId platformMessageId,
    db.messages.any (CsMessage.isOf shopId platformMessageId) = true →
    db'.messages.any (CsMessage.isOf shopId platformMessageId) = true
  tasks : db'.tasks = db.tasks

lemma storeMessage_spec {item : UnifiedMessage} (h : storeMessage w shop db item = .ok db') :
    db.Grows db' ∧ HasMessage shop.id item db' := by
  simp only [storeMessage, bind_eq_ok] at h
  obtain ⟨deadline, -, h⟩ := h
  split at h
  · cases h
    refine ⟨⟨fun shopId id => any_put ?_, rfl⟩, any_put_self ?_⟩
    · intro r his hp
      simp only [CsMessage.isOf, Bool.decide_and, Bool.and_eq_true, decide_eq_true_eq] at his hp ⊢
      exact ⟨his.1.symm.trans hp.1, his.2.symm.trans hp.2⟩
    · simp [CsMessage.isOf, messageRow]
  · cases h

lemma storeMessages_spec {items : List UnifiedMessage}
    (h : items.foldlM (storeMessage w shop) db = .ok db') :
    db.Grows db' ∧ ∀ item ∈ items, HasMessage shop.id item db' :=
  Fallible.foldlM_spec (R := CsDb.Grows) (P := fun item db => HasMessage shop.id item db)
    (fun _ => ⟨fun _ _ h => h, rfl⟩)
    (fun _ _ _ h h' => ⟨fun shopId id hm => h'.messages shopId id (h.messages shopId id hm),
      h'.tasks.trans h.tasks⟩)
    (fun _ _ _ h hm => h.messages _ _ hm) (fun _ _ _ _ h => storeMessage_spec h) h

end messages

lemma id_of_shopToSync {what : String} {shops : List BoundShop} {shopId : ℕ} {shop : BoundShop}
    (h : shopToSync what shops shopId = .ok shop) : shop.id = shopId := by
  rw [shopToSync] at h
  split at h
  · cases h
  · next s hs =>
    split at h
    · cases h
    · split at h
      · cases h
      · cases h
        simpa using List.find?_some hs

lemma mapError_eq_ok {ε ε' α : Type} {f : ε → ε'} {x : Except ε α} {a : α} :
    x.mapError f = .ok a ↔ x = .ok a := by
  cases x with
  | error e => simp [Except.mapError]
  | ok b => simp [Except.mapError]

section ads

variable {w : AdsWorld} {shop : BoundShop} {db db' : AdsDb}

/-- The campaign is in the table, under one id. -/
def HasCampaign (shopId : ℕ) (platformCampaignId : String) (id : ℕ) (db : AdsDb) : Prop :=
  db.campaigns.any (AdCampaign.isOf shopId platformCampaignId) = true ∧
    ∀ r ∈ db.campaigns, AdCampaign.isOf shopId platformCampaignId r → r.id = id

/-- Nothing is lost on the way. -/
structure AdsDb.Grows (db db' : AdsDb) : Prop where
  campaigns : ∀ shopId platformCampaignId id,
    HasCampaign shopId platformCampaignId id db → HasCampaign shopId platformCampaignId id db'
  metrics : ∀ campaignId day, db.metrics.any (AdMetricDaily.isOf campaignId day) = true →
    db'.metrics.any (AdMetricDaily.isOf campaignId day) = true
  keywords : ∀ campaignId keyword day,
    db.keywords.any (AdKeywordMetric.isOf campaignId keyword day) = true →
    db'.keywords.any (AdKeywordMetric.isOf campaignId keyword day) = true
  tasks : db'.tasks = db.tasks

lemma AdsDb.Grows.refl (db : AdsDb) : db.Grows db :=
  ⟨fun _ _ _ h => h, fun _ _ h => h, fun _ _ _ h => h, rfl⟩

lemma AdsDb.Grows.trans {db'' : AdsDb} (h : db.Grows db') (h' : db'.Grows db'') : db.Grows db'' where
  campaigns s p i hc := h'.campaigns s p i (h.campaigns s p i hc)
  metrics c d hm := h'.metrics c d (h.metrics c d hm)
  keywords c k d hk := h'.keywords c k d (h.keywords c k d hk)
  tasks := h'.tasks.trans h.tasks

lemma find?_of_any {shopId : ℕ} {platformCampaignId : String} {id : ℕ}
    (h : HasCampaign shopId platformCampaignId id db) :
    ∃ r, db.campaigns.find? (AdCampaign.isOf shopId platformCampaignId) = some r ∧ r.id = id := by
  obtain ⟨r, hr, his⟩ := List.any_eq_true.mp h.1
  obtain ⟨s, hs⟩ := Option.isSome_iff_exists.mp (List.find?_isSome.mpr ⟨r, hr, his⟩)
  exact ⟨s, hs, h.2 s (List.mem_of_find?_eq_some hs) (List.find?_some hs)⟩

lemma upsertCampaign_spec {item : UnifiedAdCampaign} {skuId : Option ℕ} {campaign : AdCampaign}
    (h : upsertCampaign w shop db item skuId = .ok (campaign, db')) :
    db.Grows db' ∧ HasCampaign shop.id item.platformCampaignId campaign.id db' := by
  simp only [upsertCampaign] at h
  split at h
  · cases h
    refine ⟨⟨fun s p id hc => ⟨any_put ?_ hc.1, ?_⟩, fun _ _ h => h, fun _ _ _ h => h, rfl⟩,
      any_put_self (by simp [AdCampaign.isOf]), ?_⟩
    · intro r his hp
      simp only [AdCampaign.isOf, Bool.decide_and, Bool.and_eq_true, decide_eq_true_eq] at his hp ⊢
      exact ⟨his.1 ▸ hp.1, his.2 ▸ hp.2⟩
    · intro r hr his
      obtain rfl | ⟨hr, -⟩ := mem_put hr
      · -- the row is the one of `p`, which was there under its id
        obtain ⟨rfl, rfl⟩ : shop.id = s ∧ item.platformCampaignId = p := by
          simpa [AdCampaign.isOf] using his
        obtain ⟨c, hfind, hid⟩ := find?_of_any hc
        simp only [hfind, Option.map_some, Option.getD_some, hid]
      · exact hc.2 r hr his
    · intro r hr his
      obtain rfl | ⟨-, hne⟩ := mem_put hr
      · rfl
      · rw [his] at hne
        cases hne
  · cases h

lemma upsertDay_spec {campaign : AdCampaign} {day : Day} {currency : String} {planned : DayMetrics}
    (h : upsertDay w shop campaign day currency planned db = .ok db') :
    db.Grows db' ∧ db'.metrics.any (AdMetricDaily.isOf campaign.id day) = true := by
  simp only [upsertDay] at h
  split at h
  · cases h
    refine ⟨⟨fun _ _ _ h => h, fun c d => any_put ?_, fun _ _ _ h => h, rfl⟩,
      any_put_self (by simp [AdMetricDaily.isOf])⟩
    intro r his hp
    simp only [AdMetricDaily.isOf, Bool.decide_and, Bool.and_eq_true, decide_eq_true_eq] at his hp ⊢
    exact ⟨his.1 ▸ hp.1, his.2 ▸ hp.2⟩
  · cases h

lemma upsertKeyword_spec {campaign : AdCampaign} {day : UnifiedAdDay} {keyword : UnifiedAdKeyword}
    (h : upsertKeyword w shop campaign day db keyword = .ok db') :
    db.Grows db' ∧
      db'.keywords.any (AdKeywordMetric.isOf campaign.id keyword.keyword day.statDate) = true := by
  simp only [upsertKeyword] at h
  split at h
  · cases h
    refine ⟨⟨fun _ _ _ h => h, fun _ _ h => h, fun c k d => any_put ?_, rfl⟩,
      any_put_self (by simp [AdKeywordMetric.isOf])⟩
    intro r his hp
    simp only [AdKeywordMetric.isOf, Bool.decide_and, Bool.and_eq_true, decide_eq_true_eq]
      at his hp ⊢
    exact ⟨his.1 ▸ hp.1, his.2.1 ▸ hp.2.1, his.2.2 ▸ hp.2.2⟩
  · cases h

/-- The day of a campaign is in the tables, if it is in the window. -/
def HasDay (first last : Day) (campaignId : ℕ) (day : UnifiedAdDay) (db : AdsDb) : Prop :=
  first ≤ day.statDate → day.statDate ≤ last →
    db.metrics.any (AdMetricDaily.isOf campaignId day.statDate) = true ∧
    ∀ k ∈ day.keywords,
      db.keywords.any (AdKeywordMetric.isOf campaignId k.keyword day.statDate) = true

lemma HasDay.grows {first last : Day} {campaignId : ℕ} {day : UnifiedAdDay} (h : db.Grows db')
    (hday : HasDay first last campaignId day db) : HasDay first last campaignId day db' := by
  intro hfirst hlast
  obtain ⟨hmetric, hkeywords⟩ := hday hfirst hlast
  exact ⟨h.metrics _ _ hmetric, fun k hk => h.keywords _ _ _ (hkeywords k hk)⟩

lemma storeDay_spec {first last : Day} {campaign : AdCampaign} {skuId : Option ℕ}
    {s s' : AdCounts × AdsDb} {day : UnifiedAdDay}
    (h : storeDay w shop first last campaign skuId s day = .ok s') :
    s.2.Grows s'.2 ∧ HasDay first last campaign.id day s'.2 := by
  rw [storeDay] at h
  split at h
  · next hout =>
    cases h
    refine ⟨.refl _, fun hfirst hlast => ?_⟩
    obtain hlt | hlt := hout
    · exact absurd hfirst (not_le.mpr hlt)
    · exact absurd hlast (not_le.mpr hlt)
  · simp only [bind_eq_ok] at h
    obtain ⟨db₁, hday, db₂, hkeywords, h⟩ := h
    cases h
    obtain ⟨hgrows, hmetric⟩ := upsertDay_spec hday
    obtain ⟨hgrows', hall⟩ := Fallible.foldlM_spec (R := AdsDb.Grows)
      (P := fun k db => db.keywords.any
        (AdKeywordMetric.isOf campaign.id k.keyword day.statDate) = true)
      AdsDb.Grows.refl (fun _ _ _ => AdsDb.Grows.trans)
      (fun k _ _ h hk => h.keywords _ k.keyword _ hk)
      (fun _ _ _ _ h => upsertKeyword_spec h) hkeywords
    exact ⟨hgrows.trans hgrows', fun _ _ => ⟨hgrows'.metrics _ _ hmetric, hall⟩⟩

/-- A campaign is in the tables with its days. -/
def HasAds (shopId : ℕ) (first last : Day) (item : UnifiedAdCampaign) (db : AdsDb) : Prop :=
  ∃ id, HasCampaign shopId item.platformCampaignId id db ∧
    ∀ day ∈ item.days, HasDay first last id day db

lemma storeCampaign_spec {first last : Day} {s s' : AdCounts × AdsDb} {item : UnifiedAdCampaign}
    (h : storeCampaign w shop first last s item = .ok s') :
    s.2.Grows s'.2 ∧ HasAds shop.id first last item s'.2 := by
  simp only [storeCampaign, bind_eq_ok] at h
  obtain ⟨⟨campaign, db₁⟩, hcampaign, hdays⟩ := h
  obtain ⟨hgrows, hhas⟩ := upsertCampaign_spec hcampaign
  obtain ⟨hgrows', hall⟩ := Fallible.foldlM_spec (R := fun s s' => s.2.Grows s'.2)
    (P := fun day s => HasDay first last campaign.id day s.2) (fun s => AdsDb.Grows.refl s.2)
    (fun _ _ _ => AdsDb.Grows.trans) (fun _ _ _ h hday => hday.grows h)
    (fun _ _ _ _ h => storeDay_spec h) hdays
  exact ⟨hgrows.trans hgrows', campaign.id, hgrows'.campaigns _ _ _ hhas, hall⟩

lemma storeCampaigns_spec {first last : Day} {s s' : AdCounts × AdsDb}
    {items : List UnifiedAdCampaign}
    (h : items.foldlM (storeCampaign w shop first last) s = .ok s') :
    s.2.Grows s'.2 ∧ ∀ item ∈ items, HasAds shop.id first last item s'.2 := by
  refine Fallible.foldlM_spec (R := fun s s' => s.2.Grows s'.2)
    (P := fun item s => HasAds shop.id first last item s.2) (fun s => AdsDb.Grows.refl s.2)
    (fun _ _ _ => AdsDb.Grows.trans) (fun _ _ _ h hads => ?_)
    (fun _ _ _ _ h => storeCampaign_spec h) h
  obtain ⟨id, hcampaign, hdays⟩ := hads
  exact ⟨id, h.campaigns _ _ _ hcampaign, fun day hday => (hdays day hday).grows h⟩

end ads

/-! ### What a success means -/

/-- All pages of the messages were asked for, up to one without a next cursor, and their messages are
in the table. -/
def MessagesRead (w : CsWorld) (shopId : ℕ) (db : CsDb) : Prop :=
  ∃ answers, pull w.fetchMessages w.maxPages none [] [] = .ok answers ∧ Leads none answers none ∧
    ∀ item ∈ itemsOf answers, HasMessage shopId item db

/-- All pages of the ads were asked for, up to one without a next cursor, and their campaigns are in
the tables with the days and keywords of the window. -/
def AdsRead (w : AdsWorld) (shopId : ℕ) (window : Day × Day) (db : AdsDb) : Prop :=
  ∃ answers, pull (w.fetchAds window.1 window.2) w.maxPages none [] [] = .ok answers ∧
    Leads none answers none ∧ ∀ item ∈ itemsOf answers, HasAds shopId window.1 window.2 item db

section success

variable {trigger : SyncTrigger} {key : Option String} {shopId : ℕ}

/-- A sync of messages that ends well answers what an earlier one did, or is written down as a
success. -/
lemma syncMessages_spec {w : CsWorld} {db db' : CsDb} {view : CsSyncView}
    (h : syncMessages w shopId trigger key db = .ok (view, db')) :
    db' = db ∨ ∃ answers task, pull w.fetchMessages w.maxPages none [] [] = .ok answers ∧
      db'.tasks = db.tasks ++ [task] ∧ task.status = .success ∧
      ∀ item ∈ itemsOf answers, HasMessage shopId item db' := by
  simp only [syncMessages, bind_eq_ok] at h
  obtain ⟨key, -, earlier, -, h⟩ := h
  split at h
  · cases h
    exact .inl rfl
  · simp only [bind_eq_ok, mapError_eq_ok] at h
    obtain ⟨shop, hshop, answers, hpull, stored, hstored, h⟩ := h
    cases h
    obtain ⟨hgrows, hall⟩ := storeMessages_spec hstored
    refine .inr ⟨answers, _, hpull, by rw [hgrows.tasks], rfl, fun item hitem => ?_⟩
    rw [← id_of_shopToSync hshop]
    exact hall item hitem

lemma syncAds_spec {w : AdsWorld} {dateFrom dateTo : Option Day} {db db' : AdsDb}
    {view : AdsSyncView}
    (h : syncAds w shopId dateFrom dateTo trigger key db = .ok (view, db')) :
    db' = db ∨ ∃ window answers task, syncWindow w dateFrom dateTo = .ok window ∧
      pull (w.fetchAds window.1 window.2) w.maxPages none [] [] = .ok answers ∧
      db'.tasks = db.tasks ++ [task] ∧ task.status = .success ∧
      ∀ item ∈ itemsOf answers, HasAds shopId window.1 window.2 item db' := by
  simp only [syncAds, bind_eq_ok] at h
  obtain ⟨window, hwindow, key, -, earlier, -, h⟩ := h
  split at h
  · cases h
    exact .inl rfl
  · simp only [bind_eq_ok, mapError_eq_ok] at h
    obtain ⟨shop, hshop, answers, hpull, ⟨counts, stored⟩, hstored, h⟩ := h
    cases h
    obtain ⟨hgrows, hall⟩ := storeCampaigns_spec hstored
    refine .inr ⟨window, answers, _, hwindow, hpull, by rw [hgrows.tasks], rfl, fun item hitem => ?_⟩
    rw [← id_of_shopToSync hshop]
    exact hall item hitem

/-- **What a success means.** A sync that writes down a run writes down a success. Everything was read
then just when the platform comes to a page without a next cursor within the limit of pages, and no
cursor comes again before. -/
theorem success_iff (shopId : ℕ) (trigger : SyncTrigger) (key : Option String) :
    (∀ w db view db',
      syncMessages w shopId trigger key db = .ok (view, db') → db' = db ∨
      ∃ task, db'.tasks = db.tasks ++ [task] ∧ task.status = .success ∧
        (MessagesRead w shopId db' ↔ EndsInTime w.fetchMessages w.maxPages)) ∧
    ∀ w dateFrom dateTo db view db',
      syncAds w shopId dateFrom dateTo trigger key db = .ok (view, db') → db' = db ∨
      ∃ window task, syncWindow w dateFrom dateTo = .ok window ∧
        db'.tasks = db.tasks ++ [task] ∧ task.status = .success ∧
        (AdsRead w shopId window db' ↔ EndsInTime (w.fetchAds window.1 window.2) w.maxPages) := by
  constructor
  · intro w db view db' h
    obtain h | ⟨answers, task, hpull, htasks, hstatus, hall⟩ := syncMessages_spec h
    · exact .inl h
    refine .inr ⟨task, htasks, hstatus, ?_⟩
    rw [← leads_iff_endsInTime hpull]
    constructor
    · rintro ⟨_, hpull', hleads, -⟩
      cases hpull.symm.trans hpull'
      exact hleads
    · exact fun hleads => ⟨answers, hpull, hleads, hall⟩
  · intro w dateFrom dateTo db view db' h
    obtain h | ⟨window, answers, task, hwindow, hpull, htasks, hstatus, hall⟩ := syncAds_spec h
    · exact .inl h
    refine .inr ⟨window, task, hwindow, htasks, hstatus, ?_⟩
    rw [← leads_iff_endsInTime hpull]
    constructor
    · rintro ⟨_, hpull', hleads, -⟩
      cases hpull.symm.trans hpull'
      exact hleads
    · exact fun hleads => ⟨answers, hpull, hleads, hall⟩

end success

/-! ### A run that is cut off -/

def oneMessage : UnifiedMessage where
  platformMessageId := "m"
  content := "hello"
  receivedAt := ⟨0, true⟩
  consoleUrl := "https://shop"

/-- A platform that names the cursor of its second page twice. The third page is the last, and it holds
a message. -/
def circling (n : ℕ) (_ : Option String) : Except String (Page UnifiedMessage) :=
  match n with
  | 0 | 1 => .ok ⟨[], some "a"⟩
  | _ => .ok ⟨[oneMessage], none⟩

def circlingShop : CsWorld where
  maxPages := 5
  slaHours _ := 24
  shops := [⟨4, "SHOPEE", true, true⟩]
  findOrder _ _ := none
  accepts _ := true
  startedAt := 0
  finishedAt := 0
  fetchMessages := circling

/-- The third page is not asked for, and the run is a success. -/
theorem success_circlingShop :
    (∃ view db' task, syncMessages circlingShop 4 .manual none { nextId := 1 } = .ok (view, db') ∧
      db'.messages = [] ∧ db'.tasks = [task] ∧ task.status = .success ∧
      ¬ MessagesRead circlingShop 4 db') ∧
    ¬ EndsInTime circlingShop.fetchMessages circlingShop.maxPages := by
  have hpull : pull circlingShop.fetchMessages circlingShop.maxPages none [] [] =
      .ok [⟨none, ⟨[], some "a"⟩⟩, ⟨some "a", ⟨[], some "a"⟩⟩] := by rfl
  have hleads : ¬ Leads none [(⟨none, ⟨[], some "a"⟩⟩ : Answer UnifiedMessage),
      ⟨some "a", ⟨[], some "a"⟩⟩] none := by
    intro h
    have hlast := next_of_leads h
    simp [Page.next] at hlast
  refine ⟨⟨_, _, _, rfl, rfl, rfl, rfl, ?_⟩, fun h => hleads ((leads_iff_endsInTime hpull).mpr h)⟩
  rintro ⟨answers, hpull', h, -⟩
  cases hpull.symm.trans hpull'
  exact hleads h

end CrossPilot.ReadOnly
