import CrossPilot.Lib.Table
import CrossPilot.Sync.Pushed

/-!
# Renewing the tokens of shops

A beat task looks for shops whose token will soon expire and asks the platform of each for a new one.
Every shop is worked on in a transaction of its own. The answer of a platform is any HTTP answer, or
none. The texts of errors that Python itself raises are their types.
-/

namespace CrossPilot.Tokens

open Webhook

/-! ### Answers of a platform -/

/-- What comes of a request: no connection, or a status, a body and its text. -/
inductive Answer
  | connectionFailed
  | response (status : ℕ) (body : Except DecodeError Json) (text : String)

/-- `classify_platform_error`, without a time to wait. -/
def classifyPlatformError (httpStatus : Option ℕ) : RetryDecision :=
  match httpStatus with
  | none => .retry
  | some status =>
    if status = 429 then .retryAfter
    else if status = 401 ∨ status = 403 then .refreshToken
    else if 500 ≤ status then .retry
    else .failFast

/-- The body as an object. A body that is not JSON is kept as a text. -/
def Answer.payload : Except DecodeError Json → String → Except HandlingError JsonObject
  | .error (.other message), _ => .error (.other message)
  | .error .json, text => .ok [("raw", .str (Text.truncate 500 text))]
  | .ok (.dict entries), _ => .ok entries
  | .ok body, _ => .ok [("items", body)]

/-- `LiveTransport.request`. -/
def Answer.request : Answer → Except HandlingError JsonObject
  | .connectionFailed => .error (.adapter "平台连接失败" (classifyPlatformError none))
  | .response status body text =>
    (Answer.payload body text).bind fun payload =>
      if 400 ≤ status then
        .error (.adapter ("平台返回 HTTP " ++ toString status) (classifyPlatformError (some status)))
      else .ok payload

/-! ### `token_bundle` -/

structure TokenBundle where
  accessToken : String
  refreshToken : Option String
  expiresAt : Instant
  refreshExpiresAt : Option Instant
  platformShopId : String
  shopName : String
  live : Bool
  deriving DecidableEq

/-- The instants a `datetime` can show. -/
def IsDatetime (t : Instant) : Prop :=
  -62135596800000000 ≤ t ∧ t < 253402300800000000

instance (t : Instant) : Decidable (IsDatetime t) :=
  inferInstanceAs (Decidable (_ ∧ _))

def raised : IntError → HandlingError
  | .typeError => .other "TypeError"
  | .valueError => .other "ValueError"
  | .overflowError => .other "OverflowError"

/-- `now + timedelta(seconds=int(value))`. -/
def after (now : Instant) (value : Json) : Except HandlingError Instant :=
  match value.toInt with
  | .error e => .error (raised e)
  | .ok seconds =>
    if IsDatetime (now + seconds * 1000000) then .ok (now + seconds * 1000000)
    else .error (raised .overflowError)

/-- `expire_in`. -/
def expireIn (body : JsonObject) : Json :=
  ((body.get "expire_in").orElse (body.get "expires_in")).orElse (.int 3600)

/-- When the refresh token expires, if the body says so. -/
def refreshAfter (now : Instant) (body : JsonObject) : Except HandlingError (Option Instant) :=
  if (body.get "refresh_expires_in").truthy then (after now (body.get "refresh_expires_in")).map some
  else .ok none

/-- The refresh token of a body. -/
def returnedRefresh (py : Python) (body : JsonObject) : Option String :=
  if (body.get "refresh_token").truthy then some (py.str (body.get "refresh_token")) else none

/-- The shop of a body. -/
def returnedShop (py : Python) (platform : Platform) (siteCode : String) (body : JsonObject) :
    String :=
  py.str (((body.get "shop_id").orElse (body.get "seller_id")).orElse
    (.str ("fixture-" ++ platform.code ++ "-" ++ siteCode)))

/-- `token_bundle`. -/
def tokenBundle (py : Python) (now : Instant) (body : JsonObject) (platform : Platform)
    (siteCode : String) (shopName : Option String := none) : Except HandlingError TokenBundle :=
  let access := py.textOf (body.get "access_token")
  if access = "" then .error (.adapter "平台未返回 access_token" .failFast)
  else
    (after now (expireIn body)).bind fun expiresAt =>
      (refreshAfter now body).map fun refreshExpiresAt =>
        { accessToken := access
          refreshToken := returnedRefresh py body
          expiresAt
          refreshExpiresAt
          platformShopId := returnedShop py platform siteCode body
          shopName := shopName.getD (py.str ((body.get "shop_name").orElse
            (.str (Text.upper platform.code ++ " " ++ siteCode))))
          live := !"fixture-".toList.isPrefixOf access.toList }

/-! ### The adapters -/

/-- The decrypted tokens of a shop, as the adapters see them. -/
structure CredentialView where
  platform : Platform
  siteCode : String
  accessToken : String
  refreshToken : Option String
  platformShopId : String

/-- `ShopeeAdapter.refresh_token`, after the request. -/
def shopeeBundle (py : Python) (now : Instant) (cred : CredentialView) (body : JsonObject) :
    Except HandlingError TokenBundle :=
  (tokenBundle py now body .shopee cred.siteCode (some ("Shopee " ++ cred.siteCode))).map
    fun bundle => { bundle with
      platformShopId := py.str (((body.get "shop_id").orElse (.str cred.platformShopId)).orElse
        (.str bundle.platformShopId)) }

/-- `AmazonAdapter.refresh_token`, after the request. -/
def amazonBundle (py : Python) (now : Instant) (cred : CredentialView) (body : JsonObject) :
    Except HandlingError TokenBundle :=
  (tokenBundle py now body .amazon cred.siteCode (some ("Amazon " ++ cred.siteCode))).map
    fun bundle =>
      match body.get "shop_id", body.get "seller_id" with
      | .null, .null => { bundle with
          refreshToken := bundle.refreshToken.or cred.refreshToken
          platformShopId := cred.platformShopId }
      | _, _ => bundle

/-- `_named` of TikTok and of Lazada. -/
def named (title code : String) (bundle : TokenBundle) (siteCode : String) : TokenBundle :=
  { bundle with
    platformShopId :=
      if "fixture-".toList.isPrefixOf bundle.platformShopId.toList then
        "fixture-" ++ code ++ "-" ++ Text.upper siteCode
      else bundle.platformShopId
    shopName := title ++ " " ++ Text.upper siteCode }

/-- The end of `refresh_token` of TikTok and of Lazada: what the shop had fills the gaps. -/
def keepingOwn (py : Python) (cred : CredentialView) (bundle : TokenBundle) : TokenBundle :=
  { bundle with
    refreshToken := bundle.refreshToken.or cred.refreshToken
    platformShopId :=
      py.str ((Json.str cred.platformShopId).orElse (.str bundle.platformShopId)) }

/-- `LazadaAdapter.refresh_token`, after the request. -/
def lazadaBundle (py : Python) (now : Instant) (cred : CredentialView) (body : JsonObject) :
    Except HandlingError TokenBundle :=
  (tokenBundle py now body .lazada cred.siteCode).map fun bundle =>
    keepingOwn py cred (named "Lazada" "lazada" bundle cred.siteCode)

/-- `_payload` of TikTok. -/
def tiktokPayload (body : JsonObject) : JsonObject :=
  match body.get "data" with
  | .dict entries => entries
  | _ => body

/-- `TikTokAdapter.refresh_token`, after the request. -/
def tiktokBundle (py : Python) (now : Instant) (cred : CredentialView) (body : JsonObject) :
    Except HandlingError TokenBundle :=
  (tokenBundle py now (tiktokPayload body) .tiktok cred.siteCode).map fun bundle =>
    keepingOwn py cred (named "TikTok Shop" "tiktok" bundle cred.siteCode)

def refreshBundle (py : Python) (now : Instant) (cred : CredentialView) (body : JsonObject) :
    Except HandlingError TokenBundle :=
  match cred.platform with
  | .amazon => amazonBundle py now cred body
  | .shopee => shopeeBundle py now cred body
  | .lazada => lazadaBundle py now cred body
  | .tiktok => tiktokBundle py now cred body

/-- `PLATFORM_SITES`. -/
def platformSites : Platform → List String
  | .amazon => ["US", "CA", "MX", "UK", "DE", "FR", "IT", "ES", "JP", "AU", "SG"]
  | .shopee => ["SG", "MY", "TH", "ID", "VN", "PH", "TW", "BR"]
  | .lazada => ["SG", "MY", "TH", "ID", "VN", "PH"]
  | .tiktok => ["US", "GB", "ID", "MY", "TH", "VN", "PH", "SG"]

/-- `LAZADA_AUTH_HOST`. -/
def lazadaAuthHost : List (String × String) :=
  [("SG", "https://auth.lazada.sg"), ("MY", "https://auth.lazada.com.my"),
    ("TH", "https://auth.lazada.co.th"), ("ID", "https://auth.lazada.co.id"),
    ("VN", "https://auth.lazada.vn"), ("PH", "https://auth.lazada.com.ph")]

/-- What an adapter does before its request: look up the keys of the application and, for Lazada, the
host of the site. -/
def prepareRequest (hasKeys : Platform → Bool) (cred : CredentialView) :
    Except HandlingError Unit :=
  if !hasKeys cred.platform then .error (.other "平台应用凭证未配置")
  else
    match cred.platform, lazadaAuthHost.lookup (Text.upper cred.siteCode) with
    | .lazada, none => .error (.other "KeyError")
    | _, _ => .ok ()

/-! ### Shops and their credentials -/

inductive ShopStatus
  | active | authExpired | unbound
  deriving DecidableEq

/-- A bound shop. Only sites that the platform supports are bound, and a bound shop has an id on its
platform. A text column holds no NUL. -/
structure Shop where
  id : ℕ
  tenantId : ℕ
  platform : Platform
  siteCode : String
  shopName : String
  platformShopId : String
  status : ShopStatus
  lastError : Option String
  deleted : Bool
  supported : Text.upper siteCode ∈ platformSites platform
  bound : platformShopId ≠ ""
  storable : '\x00' ∉ platformShopId.toList
  deriving DecidableEq

/-- The stored tokens of a shop. -/
structure ShopCredential where
  shopId : ℕ
  tenantId : ℕ
  accessTokenEnc : String
  refreshTokenEnc : Option String
  expiresAt : Instant
  refreshExpiresAt : Option Instant
  extraShopId : Option String
  refreshFailCount : ℕ
  lastRefreshError : Option String
  lastRefreshAt : Option Instant
  deriving DecidableEq

/-- Encryption with a fresh nonce. What was encrypted with the key can be decrypted with it. -/
structure Cipher where
  encrypt : (nonce : ℕ) → String → String
  decrypt : String → Option String
  decrypt_encrypt : ∀ nonce plaintext, decrypt (encrypt nonce plaintext) = some plaintext

/-- `decrypt_optional`. -/
def Cipher.decryptOptional (cipher : Cipher) : Option String → Option (Option String)
  | none => some none
  | some token => (cipher.decrypt token).map some

/-- The shops and credentials of all tenants. A shop has at most one credential, of its own tenant. -/
structure Bindings where
  shops : List Shop
  credentials : List ShopCredential
  shops_keyed : Table.Keyed Shop.id shops
  credentials_keyed : Table.Keyed ShopCredential.shopId credentials
  same_tenant : ∀ shop ∈ shops, ∀ row ∈ credentials, row.shopId = shop.id →
    row.tenantId = shop.tenantId

namespace Bindings

/-- `shops.get`, for a tenant. -/
def shop? (db : Bindings) (tenantId shopId : ℕ) : Option Shop :=
  db.shops.find? fun s => s.id = shopId ∧ s.tenantId = tenantId ∧ !s.deleted

/-- `get_by_shop_id`, for a tenant. -/
def credential? (db : Bindings) (tenantId shopId : ℕ) : Option ShopCredential :=
  db.credentials.find? fun c => c.shopId = shopId ∧ c.tenantId = tenantId

/-- Write the shop and the credential that were read. -/
def save (db : Bindings) (shop : Shop) (row : ShopCredential) : Bindings where
  shops := Table.alter Shop.id shop.id
    (fun s => { s with lastError := shop.lastError, status := shop.status }) db.shops
  credentials := Table.alter ShopCredential.shopId row.shopId
    (fun c => { row with shopId := c.shopId, tenantId := c.tenantId }) db.credentials
  shops_keyed := db.shops_keyed.alter fun _ => rfl
  credentials_keyed := db.credentials_keyed.alter fun _ => rfl
  same_tenant := by
    intro s hs c hc hid
    obtain ⟨s', hs', rfl⟩ := Table.mem_alter.mp hs
    obtain ⟨c', hc', rfl⟩ := Table.mem_alter.mp hc
    have := db.same_tenant s' hs' c' hc'
    split_ifs at hid ⊢ <;> exact this hid

end Bindings

/-! ### `_refresh_one` -/

/-- What a refresh meets: two readings of the clock, two nonces and the answer of the platform. -/
structure Turn where
  now : Instant
  savedAt : Instant
  nonces : ℕ × ℕ
  answer : Answer

/-- What the task works with. -/
structure Setting where
  py : Python
  cipher : Cipher
  hasKeys : Platform → Bool
  /-- `token_refresh_alert_threshold` -/
  threshold : ℕ
  /-- `token_refresh_lead_minutes` -/
  leadMinutes : ℤ
  /-- What the refresh of each shop meets. -/
  turn : ℕ → Turn

/-- `view_from_row`. -/
def viewFromRow (cipher : Cipher) (shop : Shop) (row : ShopCredential) : Option CredentialView :=
  match cipher.decrypt row.accessTokenEnc, cipher.decryptOptional row.refreshTokenEnc with
  | some accessToken, some refreshToken =>
    some ⟨shop.platform, shop.siteCode, accessToken, refreshToken, shop.platformShopId⟩
  | _, _ => none

/-- `next_refresh_failure`. -/
def nextRefreshFailure (count threshold : ℕ) : ℕ × Bool :=
  (count + 1, threshold ≤ count + 1)

/-- `apply_bundle`. -/
def applyBundle (cipher : Cipher) (turn : Turn) (row : ShopCredential) (bundle : TokenBundle) :
    ShopCredential :=
  { row with
    accessTokenEnc := cipher.encrypt turn.nonces.1 bundle.accessToken
    refreshTokenEnc := bundle.refreshToken.map (cipher.encrypt turn.nonces.2)
    expiresAt := bundle.expiresAt
    refreshExpiresAt := bundle.refreshExpiresAt
    extraShopId := some bundle.platformShopId
    refreshFailCount := 0
    lastRefreshError := none
    lastRefreshAt := some turn.savedAt }

inductive Outcome
  | skipped | refreshed | failed | alerted
  deriving DecidableEq

/-- How the work on a shop ends: whether its platform was asked, what is returned or raised, and the
database. -/
structure Attempt where
  asked : Bool
  outcome : Except HandlingError Outcome
  db : Bindings

/-- The branch of `AdapterError`. The notice and the audit row of an alert are left out. -/
def recordFailure (threshold : ℕ) (shop : Shop) (row : ShopCredential) (message : String)
    (db : Bindings) : Attempt :=
  let (count, alert) := nextRefreshFailure row.refreshFailCount threshold
  let error := some (Text.truncate 512 message)
  { asked := true
    outcome := .ok (if alert then .alerted else .failed)
    db := db.save
      { shop with lastError := error, status := if alert then .authExpired else shop.status }
      { row with refreshFailCount := count, lastRefreshError := error } }

/-- The end of `_refresh_one`: the bundle is stored. A JSONB column takes no text with a NUL, so the
transaction then fails as a whole. -/
def storeBundle (cipher : Cipher) (turn : Turn) (shop : Shop) (row : ShopCredential)
    (bundle : TokenBundle) (db : Bindings) : Attempt :=
  let saved := if bundle.platformShopId = "" then
    { bundle with platformShopId := shop.platformShopId, shopName := shop.shopName } else bundle
  if '\x00' ∈ saved.platformShopId.toList then ⟨true, .error (.other "DBAPIError"), db⟩
  else
    { asked := true
      outcome := .ok .refreshed
      db := db.save
        { shop with
          status := if shop.status = .authExpired then .active else shop.status
          lastError := none }
        (applyBundle cipher turn row saved) }

/-- `_refresh_one` after the adapter has returned or raised. -/
def afterAdapter (env : Setting) (shop : Shop) (row : ShopCredential) (db : Bindings) :
    Except HandlingError TokenBundle → Attempt
  | .error (.adapter message _) => recordFailure env.threshold shop row message db
  | .error e => ⟨true, .error e, db⟩
  | .ok bundle => storeBundle env.cipher (env.turn shop.id) shop row bundle db

/-- `_refresh_one`. -/
def refreshOne (env : Setting) (tenantId shopId : ℕ) (db : Bindings) : Attempt :=
  match db.shop? tenantId shopId, db.credential? tenantId shopId with
  | some shop, some row =>
    if shop.status ≠ .active then ⟨false, .ok .skipped, db⟩
    else
      match viewFromRow env.cipher shop row with
      | none => ⟨false, .error (.other "InvalidTag"), db⟩
      | some view =>
        match prepareRequest env.hasKeys view with
        | .error e => ⟨false, .error e, db⟩
        | .ok () =>
          afterAdapter env shop row db
            ((env.turn shop.id).answer.request.bind
              (refreshBundle env.py (env.turn shop.id).now view))
  | _, _ => ⟨false, .ok .skipped, db⟩

/-! ### `refresh_expiring_credentials` -/

/-- The shops whose token expires within the lead, with their tenants. -/
def dueShops (env : Setting) (now : Instant) (db : Bindings) : List (ℕ × ℕ) :=
  db.credentials.filterMap fun c =>
    (db.shops.find? fun s => s.id = c.shopId).bind fun s =>
      if !s.deleted ∧ s.status = .active ∧ c.expiresAt ≤ now + env.leadMinutes * 60000000 then
        some (c.shopId, c.tenantId)
      else none

/-- The counters of the task, the shops whose platform was asked, and the database. -/
structure Progress where
  refreshed : ℕ
  alerted : ℕ
  failed : ℕ
  asked : List ℕ
  db : Bindings

/-- Count one shop. -/
def Progress.add (p : Progress) (shopId : ℕ) (a : Attempt) : Progress where
  refreshed := p.refreshed + if a.outcome matches .ok .refreshed then 1 else 0
  alerted := p.alerted + if a.outcome matches .ok .alerted then 1 else 0
  failed := p.failed + if a.outcome matches .ok .failed then 1 else 0
  asked := p.asked ++ if a.asked then [shopId] else []
  db := a.db

/-- The loop over the due shops. What is raised ends it. -/
def refreshDue (env : Setting) : List (ℕ × ℕ) → Progress → Progress × Option HandlingError
  | [], p => (p, none)
  | (shopId, tenantId) :: rest, p =>
    let a := refreshOne env tenantId shopId p.db
    match a.outcome with
    | .error e => (p.add shopId a, some e)
    | .ok _ => refreshDue env rest (p.add shopId a)

/-- `refresh_expiring_credentials`. -/
def refreshExpiringCredentials (env : Setting) (now : Instant) (db : Bindings) :
    Progress × Option HandlingError :=
  refreshDue env (dueShops env now db) ⟨0, 0, 0, [], db⟩

end CrossPilot.Tokens
