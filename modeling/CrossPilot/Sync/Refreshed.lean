import CrossPilot.Sync.Refresh

/-!
# Every due shop has its turn

A round of refreshes should ask the platform of every due shop, count the refreshes that fail, and
keep the refresh token of a shop when the answer holds none. It does so exactly if no due shop meets
an answer with times that cannot be read (the round then ends there, and the failure is not counted),
and no adapter drops the shop's own refresh token. Two of the adapters do.
-/

namespace CrossPilot.Tokens

open Webhook

/-! ### What an answer grants -/

/-- The object of an answer that is no error. -/
def Answer.accepted : Answer → Option JsonObject
  | .response status (.ok (.dict body)) _ => if 400 ≤ status then none else some body
  | _ => none

/-- The part of the object that holds the tokens. -/
def tokenPart (platform : Platform) (body : JsonObject) : JsonObject :=
  match platform with
  | .tiktok => tiktokPayload body
  | _ => body

/-- The value of the object that becomes the id of the shop. -/
def shopPart (platform : Platform) (body : JsonObject) : Json :=
  match platform with
  | .shopee => body.get "shop_id"
  | .amazon => (body.get "shop_id").orElse (body.get "seller_id")
  | _ => .null

/-- A number of seconds that a `datetime` can be moved by. -/
def IsLifetime (now : Instant) (value : Json) : Prop :=
  ∃ seconds, value.toInt = .ok seconds ∧ IsDatetime (now + seconds * 1000000)

/-- The lifetimes of the tokens are lifetimes, and the id of the shop can be stored. -/
structure Readable (py : Python) (platform : Platform) (now : Instant) (body : JsonObject) : Prop where
  expires : IsLifetime now (expireIn (tokenPart platform body))
  refresh_expires : ((tokenPart platform body).get "refresh_expires_in").truthy →
    IsLifetime now ((tokenPart platform body).get "refresh_expires_in")
  shop_storable : '\x00' ∉ (py.textOf (shopPart platform body)).toList

/-- The access token of an object. -/
def accessOf (py : Python) (platform : Platform) (body : JsonObject) : String :=
  py.textOf ((tokenPart platform body).get "access_token")

/-- The refresh token of an object. -/
def refreshOf (py : Python) (platform : Platform) (body : JsonObject) : Option String :=
  returnedRefresh py (tokenPart platform body)

/-- A refresh succeeds with an object: it has an access token, and can be read. -/
def Grants (py : Python) (platform : Platform) (now : Instant) (answer : Answer)
    (body : JsonObject) : Prop :=
  answer.accepted = some body ∧ accessOf py platform body ≠ "" ∧ Readable py platform now body

/-- The adapter falls back on the refresh token the shop had. -/
def keepsOwn (platform : Platform) (body : JsonObject) : Bool :=
  match platform with
  | .tiktok | .lazada => true
  | .shopee => false
  | .amazon =>
    match body.get "shop_id", body.get "seller_id" with
    | .null, .null => true
    | _, _ => false

/-! ### Reading a bundle -/

lemma after_of_isLifetime {now : Instant} {value : Json} (h : IsLifetime now value) :
    ∃ t, after now value = .ok t := by
  obtain ⟨seconds, hs, ht⟩ := h
  exact ⟨now + seconds * 1000000, by simp [after, hs, ht]⟩

lemma after_of_not_isLifetime {now : Instant} {value : Json} (h : ¬ IsLifetime now value) :
    ∃ text, after now value = .error (.other text) := by
  unfold after
  cases hv : value.toInt with
  | error e => cases e <;> exact ⟨_, rfl⟩
  | ok seconds =>
    have ht : ¬ IsDatetime (now + seconds * 1000000) := fun ht => h ⟨seconds, hv, ht⟩
    exact ⟨"OverflowError", by simp [ht, raised]⟩

section

variable {py : Python} {now : Instant} {body : JsonObject} {platform : Platform} {siteCode : String}
  {shopName : Option String}

lemma refreshAfter_ok (h : (body.get "refresh_expires_in").truthy →
    IsLifetime now (body.get "refresh_expires_in")) : ∃ t, refreshAfter now body = .ok t := by
  unfold refreshAfter
  split_ifs with ht
  · obtain ⟨t, h⟩ := after_of_isLifetime (h ht)
    exact ⟨some t, by rw [h]; rfl⟩
  · exact ⟨none, rfl⟩

lemma refreshAfter_raised (ht : (body.get "refresh_expires_in").truthy)
    (h : ¬ IsLifetime now (body.get "refresh_expires_in")) :
    ∃ text, refreshAfter now body = .error (.other text) := by
  obtain ⟨text, h⟩ := after_of_not_isLifetime h
  exact ⟨text, by rw [refreshAfter, if_pos ht, h]; rfl⟩

/-- Without an access token the answer is an error of the platform. -/
lemma tokenBundle_refused (h : py.textOf (body.get "access_token") = "") :
    tokenBundle py now body platform siteCode shopName =
      .error (.adapter "平台未返回 access_token" .failFast) := by
  simp [tokenBundle, h]

/-- With readable lifetimes there is a bundle. -/
lemma tokenBundle_ok (ha : py.textOf (body.get "access_token") ≠ "")
    (he : IsLifetime now (expireIn body))
    (hr : (body.get "refresh_expires_in").truthy →
      IsLifetime now (body.get "refresh_expires_in")) :
    ∃ bundle, tokenBundle py now body platform siteCode shopName = .ok bundle ∧
      bundle.accessToken = py.textOf (body.get "access_token") ∧
      bundle.refreshToken = returnedRefresh py body ∧
      bundle.platformShopId = returnedShop py platform siteCode body := by
  obtain ⟨e, he⟩ := after_of_isLifetime he
  obtain ⟨r, hr⟩ := refreshAfter_ok hr
  simp only [tokenBundle, if_neg ha, he, hr]
  exact ⟨_, rfl, rfl, rfl, rfl⟩

/-- Lifetimes that cannot be read raise what is no error of the platform. -/
lemma tokenBundle_raised (ha : py.textOf (body.get "access_token") ≠ "")
    (h : ¬ (IsLifetime now (expireIn body) ∧ ((body.get "refresh_expires_in").truthy →
      IsLifetime now (body.get "refresh_expires_in")))) :
    ∃ text, tokenBundle py now body platform siteCode shopName = .error (.other text) := by
  by_cases he : IsLifetime now (expireIn body)
  · obtain ⟨ht, hr⟩ : (body.get "refresh_expires_in").truthy ∧
        ¬ IsLifetime now (body.get "refresh_expires_in") := by
      simpa [he] using h
    obtain ⟨e, he⟩ := after_of_isLifetime he
    obtain ⟨text, hr⟩ := refreshAfter_raised ht hr
    exact ⟨text, by simp only [tokenBundle, if_neg ha, he, hr]; rfl⟩
  · obtain ⟨text, he⟩ := after_of_not_isLifetime he
    exact ⟨text, by simp only [tokenBundle, if_neg ha, he]; rfl⟩

end

/-- What an adapter makes of the bundle of an answer. -/
def finish (py : Python) (cred : CredentialView) (body : JsonObject) (bundle : TokenBundle) :
    TokenBundle :=
  match cred.platform with
  | .shopee => { bundle with
      platformShopId := py.str (((body.get "shop_id").orElse (.str cred.platformShopId)).orElse
        (.str bundle.platformShopId)) }
  | .amazon =>
    match body.get "shop_id", body.get "seller_id" with
    | .null, .null => { bundle with
        refreshToken := bundle.refreshToken.or cred.refreshToken
        platformShopId := cred.platformShopId }
    | _, _ => bundle
  | .lazada => keepingOwn py cred (named "Lazada" "lazada" bundle cred.siteCode)
  | .tiktok => keepingOwn py cred (named "TikTok Shop" "tiktok" bundle cred.siteCode)

lemma refreshBundle_eq (py : Python) (now : Instant) (cred : CredentialView) (body : JsonObject) :
    ∃ shopName, refreshBundle py now cred body =
      (tokenBundle py now (tokenPart cred.platform body) cred.platform cred.siteCode shopName).map
        (finish py cred body) := by
  obtain ⟨platform, siteCode, accessToken, refreshToken, platformShopId⟩ := cred
  cases platform
  · exact ⟨_, rfl⟩
  · exact ⟨_, rfl⟩
  · exact ⟨_, rfl⟩
  · exact ⟨_, rfl⟩

@[simp] lemma finish_accessToken (py : Python) (cred : CredentialView) (body : JsonObject)
    (bundle : TokenBundle) : (finish py cred body bundle).accessToken = bundle.accessToken := by
  unfold finish
  split
  · rfl
  · split <;> rfl
  · rfl
  · rfl

/-- The shop's own refresh token fills in where the adapter lets it. -/
lemma finish_refreshToken (py : Python) (cred : CredentialView) (body : JsonObject)
    (bundle : TokenBundle) : (finish py cred body bundle).refreshToken =
      if keepsOwn cred.platform body then bundle.refreshToken.or cred.refreshToken
      else bundle.refreshToken := by
  unfold finish keepsOwn
  cases cred.platform with
  | amazon =>
    dsimp only
    split <;> rfl
  | shopee => rfl
  | lazada => rfl
  | tiktok => rfl

/-! ### The id of the shop -/

lemma upper_nul {s : String} (h : '\x00' ∈ s.toList) : '\x00' ∈ (Text.upper s).toList := by
  rw [Text.upper, String.toList_ofList]
  exact List.mem_map.mpr ⟨_, h, rfl⟩

lemma platformSites_no_nul (platform : Platform) :
    ∀ site ∈ platformSites platform, '\x00' ∉ site.toList := by
  cases platform <;> decide

lemma Shop.siteCode_no_nul (shop : Shop) : '\x00' ∉ shop.siteCode.toList :=
  fun h => platformSites_no_nul _ _ shop.supported (upper_nul h)

lemma orElse_of_truthy {a b : Json} (h : a.truthy) : a.orElse b = a := by
  simp [Json.orElse, h]

lemma orElse_of_not_truthy {a b : Json} (h : ¬ a.truthy) : a.orElse b = b := by
  simp [Json.orElse, h]

lemma Shop.id_truthy (shop : Shop) : (Json.str shop.platformShopId).truthy := by
  simpa [Json.truthy] using shop.bound

@[simp] lemma textOf_null (py : Python) : py.textOf .null = "" := rfl

lemma textOf_of_truthy {py : Python} {j : Json} (h : j.truthy) : py.textOf j = py.str j := by
  rw [Python.textOf, orElse_of_truthy h]

lemma textOf_of_not_truthy {py : Python} {j : Json} (h : ¬ j.truthy) : py.textOf j = "" := by
  rw [Python.textOf, orElse_of_not_truthy h]
  rfl

/-- The id Amazon's bundle has by itself. -/
lemma returnedShop_storable (py : Python) (shop : Shop) (body : JsonObject) :
    '\x00' ∈ (returnedShop py shop.platform shop.siteCode body).toList ↔
      '\x00' ∈ (py.textOf ((body.get "shop_id").orElse (body.get "seller_id"))).toList := by
  by_cases ht : ((body.get "shop_id").orElse (body.get "seller_id")).truthy
  · rw [returnedShop, orElse_of_truthy ht, textOf_of_truthy ht]
  · have hcode : '\x00' ∉ shop.platform.code.toList := by
      cases shop.platform <;> decide
    rw [returnedShop, orElse_of_not_truthy ht, textOf_of_not_truthy ht]
    simp [Python.str, hcode, shop.siteCode_no_nul]

/-- What the adapter of a shop sees. -/
abbrev Shop.view (shop : Shop) (accessToken : String) (refreshToken : Option String) :
    CredentialView :=
  ⟨shop.platform, shop.siteCode, accessToken, refreshToken, shop.platformShopId⟩

/-- The id that comes with the tokens has no NUL exactly if that of the answer has none. -/
lemma finish_storable (py : Python) (shop : Shop) (accessToken : String)
    (refreshToken : Option String) (body : JsonObject) {bundle : TokenBundle}
    (hb : bundle.platformShopId =
      returnedShop py shop.platform shop.siteCode (tokenPart shop.platform body)) :
    '\x00' ∈ (finish py (shop.view accessToken refreshToken) body bundle).platformShopId.toList ↔
      '\x00' ∈ (py.textOf (shopPart shop.platform body)).toList := by
  have hown : '\x00' ∉ (py.str (.str shop.platformShopId)).toList := shop.storable
  have hpart := returnedShop_storable py shop body
  have htruthy := shop.id_truthy
  cases hp : shop.platform with
  | amazon =>
    rw [hp] at hb hpart
    simp only [finish, hp, shopPart]
    split
    · next hs hv =>
      rw [hs, hv]
      simpa [Json.orElse, Json.truthy] using shop.storable
    · rw [hb]
      exact hpart
  | shopee =>
    simp only [finish, hp, shopPart]
    by_cases ht : (body.get "shop_id").truthy
    · rw [orElse_of_truthy ht, orElse_of_truthy ht, textOf_of_truthy ht]
    · rw [orElse_of_not_truthy ht, orElse_of_truthy htruthy, textOf_of_not_truthy ht]
      simpa using hown
  | lazada =>
    simp only [finish, hp, shopPart, keepingOwn]
    rw [orElse_of_truthy htruthy]
    simpa using hown
  | tiktok =>
    simp only [finish, hp, shopPart, keepingOwn]
    rw [orElse_of_truthy htruthy]
    simpa using hown

/-! ### What the answer comes to -/

section

variable {env : Setting} {now : Instant} {cred : CredentialView} {answer : Answer}
  {body : JsonObject}

lemma request_of_accepted (h : answer.accepted = some body) : answer.request = .ok body := by
  unfold Answer.accepted at h
  split at h
  · split_ifs at h with hs
    obtain rfl := Option.some_inj.mp h
    simp [Answer.request, Answer.payload, Except.bind, hs]
  · simp at h

/-- An object without an access token is refused. -/
lemma refreshBundle_refused (h : accessOf env.py cred.platform body = "") :
    refreshBundle env.py now cred body = .error (.adapter "平台未返回 access_token" .failFast) := by
  obtain ⟨shopName, heq⟩ := refreshBundle_eq env.py now cred body
  rw [heq, tokenBundle_refused h]
  rfl

lemma accessOf_wrapped (py : Python) (platform : Platform) {key : String} (value : Json)
    (hd : key ≠ "data") (ha : key ≠ "access_token") : accessOf py platform [(key, value)] = "" := by
  have hd : JsonObject.get [(key, value)] "data" = .null := by
    simp [JsonObject.get, List.lookup_cons, beq_false_of_ne hd.symm]
  have ha : JsonObject.get [(key, value)] "access_token" = .null := by
    simp [JsonObject.get, List.lookup_cons, beq_false_of_ne ha.symm]
  cases platform
  · simp [accessOf, tokenPart, ha]
  · simp [accessOf, tokenPart, ha]
  · simp [accessOf, tokenPart, ha]
  · simp [accessOf, tokenPart, tiktokPayload, hd, ha]

/-- An answer that is no object, or an error, is refused. -/
lemma answer_refused (h : answer.accepted = none)
    (hd : ∀ status text message, answer ≠ .response status (.error (.other message)) text) :
    ∃ message decision, answer.request.bind (refreshBundle env.py now cred) =
      .error (.adapter message decision) := by
  have wrapped : ∀ {key : String} (value : Json) (status : ℕ), key ≠ "data" → key ≠ "access_token" →
      ∃ message decision, (if 400 ≤ status then
          .error (.adapter ("平台返回 HTTP " ++ toString status) (classifyPlatformError (some status)))
        else Except.ok [(key, value)]).bind (refreshBundle env.py now cred) =
      .error (.adapter message decision) := by
    intro key value status hdata haccess
    split_ifs
    · exact ⟨_, _, rfl⟩
    · exact ⟨_, _, refreshBundle_refused (accessOf_wrapped _ _ value hdata haccess)⟩
  cases answer with
  | connectionFailed => exact ⟨_, _, rfl⟩
  | response status payload text =>
    cases payload with
    | error e =>
      cases e with
      | json => exact wrapped _ status (by decide) (by decide)
      | other message => exact absurd rfl (hd status text message)
    | ok value =>
      cases value with
      | dict entries =>
        have hs : 400 ≤ status := by
          by_contra hs
          simp [Answer.accepted, hs] at h
        exact ⟨_, _, by simp [Answer.request, Answer.payload, Except.bind, hs]; exact ⟨rfl, rfl⟩⟩
      | _ => exact wrapped _ status (by decide) (by decide)

/-- Lifetimes that cannot be read raise. -/
lemma answer_raised (h : answer.accepted = some body) (ha : accessOf env.py cred.platform body ≠ "")
    (hr : ¬ (IsLifetime now (expireIn (tokenPart cred.platform body)) ∧
      (((tokenPart cred.platform body).get "refresh_expires_in").truthy →
        IsLifetime now ((tokenPart cred.platform body).get "refresh_expires_in")))) :
    ∃ text, answer.request.bind (refreshBundle env.py now cred) = .error (.other text) := by
  obtain ⟨shopName, heq⟩ := refreshBundle_eq env.py now cred body
  obtain ⟨text, hraised⟩ : ∃ text, tokenBundle env.py now (tokenPart cred.platform body)
      cred.platform cred.siteCode shopName = .error (.other text) := tokenBundle_raised ha hr
  exact ⟨text, by rw [request_of_accepted h]; simp only [Except.bind, heq, hraised]; rfl⟩

/-- With readable lifetimes there is a bundle of the returned tokens. -/
lemma answer_ok (h : answer.accepted = some body) (ha : accessOf env.py cred.platform body ≠ "")
    (he : IsLifetime now (expireIn (tokenPart cred.platform body)))
    (hr : ((tokenPart cred.platform body).get "refresh_expires_in").truthy →
      IsLifetime now ((tokenPart cred.platform body).get "refresh_expires_in")) :
    ∃ bundle, answer.request.bind (refreshBundle env.py now cred) =
        .ok (finish env.py cred body bundle) ∧
      bundle.accessToken = accessOf env.py cred.platform body ∧
      bundle.refreshToken = refreshOf env.py cred.platform body ∧
      bundle.platformShopId =
        returnedShop env.py cred.platform cred.siteCode (tokenPart cred.platform body) := by
  obtain ⟨shopName, heq⟩ := refreshBundle_eq env.py now cred body
  obtain ⟨bundle, hok, haccess, hrefresh, hshop⟩ : ∃ bundle,
      tokenBundle env.py now (tokenPart cred.platform body) cred.platform cred.siteCode shopName =
        .ok bundle ∧ _ := tokenBundle_ok ha he hr
  refine ⟨bundle, ?_, haccess, hrefresh, hshop⟩
  rw [request_of_accepted h]
  simp only [Except.bind, heq, hok]
  rfl

end

/-! ### One shop -/

/-- What a refresh of this shop meets does not break the round, and takes nothing from the shop. -/
structure MeetsWell (env : Setting) (shop : Shop) (row : ShopCredential) : Prop where
  keys : env.hasKeys shop.platform = true
  access_readable : ∃ token, env.cipher.decrypt row.accessTokenEnc = some token
  refresh_readable : ∃ token, env.cipher.decryptOptional row.refreshTokenEnc = some token
  decodes : ∀ status text message,
    (env.turn shop.id).answer ≠ .response status (.error (.other message)) text
  bundle_readable : ∀ body, (env.turn shop.id).answer.accepted = some body →
    accessOf env.py shop.platform body ≠ "" →
    Readable env.py shop.platform (env.turn shop.id).now body
  nothing_lost : ∀ body, (env.turn shop.id).answer.accepted = some body →
    accessOf env.py shop.platform body ≠ "" → refreshOf env.py shop.platform body = none →
    row.refreshTokenEnc = none ∨ keepsOwn shop.platform body = true

/-- What a round should leave of a shop. `stored` is for a refresh that succeeds, `counted` for one
that fails. -/
structure Settled (env : Setting) (shop : Shop) (row : ShopCredential) (db : Bindings) : Prop where
  stored : ∀ body, Grants env.py shop.platform (env.turn shop.id).now (env.turn shop.id).answer body →
    ∃ row' ∈ db.credentials, row'.shopId = shop.id ∧
      env.cipher.decrypt row'.accessTokenEnc = some (accessOf env.py shop.platform body) ∧
      env.cipher.decryptOptional row'.refreshTokenEnc =
        match refreshOf env.py shop.platform body with
        | some token => some (some token)
        | none => env.cipher.decryptOptional row.refreshTokenEnc
  counted : (∀ body, ¬ Grants env.py shop.platform (env.turn shop.id).now
      (env.turn shop.id).answer body) →
    ∃ row' ∈ db.credentials, row'.shopId = shop.id ∧
      row'.accessTokenEnc = row.accessTokenEnc ∧ row'.refreshTokenEnc = row.refreshTokenEnc ∧
      row'.refreshFailCount = row.refreshFailCount + 1

section

variable {env : Setting} {db : Bindings} {shop : Shop} {row : ShopCredential}

lemma Bindings.shop?_eq (hs : shop ∈ db.shops) (hd : shop.deleted = false) :
    db.shop? shop.tenantId shop.id = some shop := by
  apply Table.find?_eq_some_of_mem db.shops_keyed hs
  · simp [hd]
  · intro s hs
    simp only [decide_eq_true_eq] at hs
    exact hs.1

lemma Bindings.credential?_eq (hr : row ∈ db.credentials) :
    db.credential? row.tenantId row.shopId = some row := by
  apply Table.find?_eq_some_of_mem db.credentials_keyed hr
  · simp
  · intro c hc
    simp only [decide_eq_true_eq] at hc
    exact hc.1

/-- The one row of the shop after it is saved. -/
lemma Bindings.mem_save {s : Shop} {r c : ShopCredential} (hr : row ∈ db.credentials)
    (hid : r.shopId = row.shopId) (htenant : r.tenantId = row.tenantId)
    (hc : c.shopId = row.shopId) : c ∈ (db.save s r).credentials ↔ c = r := by
  have hsaved : r ∈ (db.save s r).credentials := by
    apply Table.mem_alter.mpr
    exact ⟨row, hr, by rw [if_pos hid.symm, ← hid, ← htenant]⟩
  constructor
  · intro h
    exact (db.save s r).credentials_keyed.eq_of_key_eq h hsaved (hc.trans hid.symm)
  · rintro rfl
    exact hsaved

/-- A shop that can be refreshed, with its credential. -/
structure Present (db : Bindings) (shop : Shop) (row : ShopCredential) : Prop where
  shop_mem : shop ∈ db.shops
  row_mem : row ∈ db.credentials
  owner : row.shopId = shop.id
  active : shop.status = .active
  kept : shop.deleted = false

lemma Present.find (h : Present db shop row) :
    db.shop? shop.tenantId shop.id = some shop ∧ db.credential? shop.tenantId shop.id = some row := by
  have htenant := db.same_tenant shop h.shop_mem row h.row_mem h.owner
  constructor
  · exact Bindings.shop?_eq h.shop_mem h.kept
  · rw [← htenant, ← h.owner]
    exact Bindings.credential?_eq h.row_mem

lemma lazadaAuthHost_of_supported (shop : Shop) (h : shop.platform = .lazada) :
    lazadaAuthHost.lookup (Text.upper shop.siteCode) ≠ none := by
  have hsupported := shop.supported
  rw [h] at hsupported
  revert hsupported
  generalize Text.upper shop.siteCode = site
  intro hsupported
  simp only [platformSites, List.mem_cons, List.not_mem_nil, or_false] at hsupported
  rcases hsupported with rfl | rfl | rfl | rfl | rfl | rfl <;> decide

/-- Of a bound shop's request only the keys can be missing. -/
lemma prepareRequest_ok (hk : env.hasKeys shop.platform = true) (accessToken : String)
    (refreshToken : Option String) :
    prepareRequest env.hasKeys (shop.view accessToken refreshToken) = .ok () := by
  simp only [prepareRequest, hk, Bool.not_true, Bool.false_eq_true, if_false]
  split
  · next hp hn => exact absurd hn (lazadaAuthHost_of_supported shop hp)
  · rfl

/-- The work on a shop whose platform is asked. -/
lemma refreshOne_asked (h : Present db shop row) (hk : env.hasKeys shop.platform = true)
    {accessToken : String} (ha : env.cipher.decrypt row.accessTokenEnc = some accessToken)
    {refreshToken : Option String}
    (hr : env.cipher.decryptOptional row.refreshTokenEnc = some refreshToken) :
    refreshOne env shop.tenantId shop.id db =
      afterAdapter env shop row db ((env.turn shop.id).answer.request.bind
        (refreshBundle env.py (env.turn shop.id).now (shop.view accessToken refreshToken))) := by
  simp only [refreshOne, h.find.1, h.find.2, h.active, viewFromRow, ha, hr, ne_eq, not_true_eq_false,
    if_false, prepareRequest_ok hk accessToken refreshToken]

/-- Without keys, or with tokens that cannot be decrypted, the platform is not asked. -/
lemma refreshOne_not_asked (h : Present db shop row)
    (hk : ¬ (env.hasKeys shop.platform = true ∧
      (∃ token, env.cipher.decrypt row.accessTokenEnc = some token) ∧
      ∃ token, env.cipher.decryptOptional row.refreshTokenEnc = some token)) :
    ∃ e, refreshOne env shop.tenantId shop.id db = ⟨false, .error e, db⟩ := by
  cases hview : viewFromRow env.cipher shop row with
  | none => exact ⟨_, by simp [refreshOne, h.find.1, h.find.2, h.active, hview]; rfl⟩
  | some view =>
    have hkeys : env.hasKeys view.platform = false := by
      unfold viewFromRow at hview
      split at hview
      · next ha hr =>
        obtain rfl := Option.some_inj.mp hview
        simpa [ha, hr] using hk
      · cases hview
    have hprepare : prepareRequest env.hasKeys view = .error (.other "平台应用凭证未配置") := by
      simp [prepareRequest, hkeys]
    exact ⟨_, by simp [refreshOne, h.find.1, h.find.2, h.active, hview, hprepare]; rfl⟩

lemma grants_unique {body body' : JsonObject} {answer : Answer} (h : answer.accepted = some body)
    (h' : answer.accepted = some body') : body' = body :=
  Option.some_inj.mp (h'.symm.trans h)

/-- The platform of the shop was asked, the round goes on, and the shop is settled. -/
structure Attempt.Completes (a : Attempt) (env : Setting) (shop : Shop) (row : ShopCredential) :
    Prop where
  asked : a.asked = true
  goes_on : ∃ o, a.outcome = .ok o
  settled : Settled env shop row a.db

/-- A failure that the loop handles is counted, and the tokens stay. -/
lemma recordFailure_completes (h : Present db shop row) (message : String)
    (hno : ∀ body, ¬ Grants env.py shop.platform (env.turn shop.id).now
      (env.turn shop.id).answer body) :
    (recordFailure env.threshold shop row message db).Completes env shop row where
  asked := rfl
  goes_on := ⟨_, rfl⟩
  settled.stored := fun body hg => absurd hg (hno body)
  settled.counted := by
    intro _
    refine ⟨_, (Bindings.mem_save h.row_mem ?_ ?_ ?_).mpr rfl, h.owner, rfl, rfl, rfl⟩ <;> rfl

/-- The bundle as it is stored. -/
lemma storeBundle_eq (turn : Turn) (bundle : TokenBundle) : ∃ saved : TokenBundle,
    saved.accessToken = bundle.accessToken ∧ saved.refreshToken = bundle.refreshToken ∧
      storeBundle env.cipher turn shop row bundle db =
        if '\x00' ∈ bundle.platformShopId.toList then ⟨true, .error (.other "DBAPIError"), db⟩
        else ⟨true, .ok .refreshed, db.save
          { shop with
            status := if shop.status = .authExpired then .active else shop.status
            lastError := none }
          (applyBundle env.cipher turn row saved)⟩ := by
  by_cases hid : bundle.platformShopId = ""
  · refine ⟨{ bundle with platformShopId := shop.platformShopId, shopName := shop.shopName },
      rfl, rfl, ?_⟩
    simp [storeBundle, hid, shop.storable]
  · exact ⟨bundle, rfl, rfl, by simp [storeBundle, hid]⟩

/-- The tokens of a bundle can be decrypted from what is stored. -/
lemma decrypt_applyBundle (turn : Turn) (bundle : TokenBundle) :
    env.cipher.decrypt (applyBundle env.cipher turn row bundle).accessTokenEnc =
        some bundle.accessToken ∧
      env.cipher.decryptOptional (applyBundle env.cipher turn row bundle).refreshTokenEnc =
        some bundle.refreshToken := by
  constructor
  · exact env.cipher.decrypt_encrypt _ _
  · cases hr : bundle.refreshToken with
    | none => simp [applyBundle, hr, Cipher.decryptOptional]
    | some token => simp [applyBundle, hr, Cipher.decryptOptional, env.cipher.decrypt_encrypt]

/-- The refresh token that is stored is the returned one, or else the one before. -/
lemma decrypt_finish {body : JsonObject} {accessToken : String} {refreshToken : Option String}
    {bundle : TokenBundle}
    (hr : env.cipher.decryptOptional row.refreshTokenEnc = some refreshToken)
    (hb : bundle.refreshToken = refreshOf env.py shop.platform body)
    (hkeep : refreshOf env.py shop.platform body = none →
      row.refreshTokenEnc = none ∨ keepsOwn shop.platform body = true) :
    some (finish env.py (shop.view accessToken refreshToken) body bundle).refreshToken =
      match refreshOf env.py shop.platform body with
      | some token => some (some token)
      | none => env.cipher.decryptOptional row.refreshTokenEnc := by
  rw [finish_refreshToken, hb]
  cases hreturned : refreshOf env.py shop.platform body with
  | some token => split_ifs <;> rfl
  | none =>
    rw [hr]
    rcases hkeep hreturned with hnone | hkeep
    · rw [hnone] at hr
      obtain rfl := Option.some_inj.mp hr
      split_ifs <;> rfl
    · rw [if_pos hkeep]
      rfl

/-- A stored bundle of the granted tokens. -/
lemma storeBundle_completes (h : Present db shop row) {bundle : TokenBundle} {body : JsonObject}
    (hg : Grants env.py shop.platform (env.turn shop.id).now (env.turn shop.id).answer body)
    (hn : '\x00' ∉ bundle.platformShopId.toList)
    (ha : bundle.accessToken = accessOf env.py shop.platform body)
    (hr : some bundle.refreshToken = match refreshOf env.py shop.platform body with
      | some token => some (some token)
      | none => env.cipher.decryptOptional row.refreshTokenEnc) :
    (storeBundle env.cipher (env.turn shop.id) shop row bundle db).Completes env shop row := by
  obtain ⟨saved, hsaccess, hsrefresh, heq⟩ := @storeBundle_eq env db shop row (env.turn shop.id) bundle
  rw [heq, if_neg hn]
  refine ⟨rfl, ⟨_, rfl⟩, ?_, fun hno => absurd hg (hno body)⟩
  intro body' hg'
  obtain rfl := grants_unique hg.1 hg'.1
  obtain ⟨haccess, hrefresh⟩ := @decrypt_applyBundle env row (env.turn shop.id) saved
  refine ⟨applyBundle env.cipher (env.turn shop.id) row saved,
    (Bindings.mem_save h.row_mem ?_ ?_ ?_).mpr rfl, h.owner, ?_, ?_⟩
  · rfl
  · rfl
  · rfl
  · rw [haccess, hsaccess, ha]
  · rw [hrefresh, hsrefresh, hr]

/-- A shop that meets no trouble. -/
theorem refreshOne_completes (h : Present db shop row) (hw : MeetsWell env shop row) :
    (refreshOne env shop.tenantId shop.id db).Completes env shop row := by
  obtain ⟨accessToken, haccess⟩ := hw.access_readable
  obtain ⟨refreshToken, hrefresh⟩ := hw.refresh_readable
  rw [refreshOne_asked h hw.keys haccess hrefresh]
  cases haccepted : (env.turn shop.id).answer.accepted with
  | none =>
    obtain ⟨message, decision, heq⟩ : ∃ message decision, (env.turn shop.id).answer.request.bind
        (refreshBundle env.py (env.turn shop.id).now (shop.view accessToken refreshToken)) =
          .error (.adapter message decision) := answer_refused haccepted hw.decodes
    rw [heq]
    apply recordFailure_completes h message
    rintro body ⟨hb, -⟩
    rw [haccepted] at hb
    cases hb
  | some body =>
    by_cases ha : accessOf env.py shop.platform body = ""
    · have heq : (env.turn shop.id).answer.request.bind (refreshBundle env.py
          (env.turn shop.id).now (shop.view accessToken refreshToken)) =
            .error (.adapter "平台未返回 access_token" .failFast) := by
        rw [request_of_accepted haccepted]
        exact refreshBundle_refused ha
      rw [heq]
      apply recordFailure_completes h
      rintro body' ⟨hb, hne, -⟩
      rw [grants_unique haccepted hb] at hne
      exact hne ha
    · have hreadable := hw.bundle_readable body haccepted ha
      obtain ⟨bundle, heq, hbaccess, hbrefresh, hbshop⟩ : ∃ bundle,
          (env.turn shop.id).answer.request.bind (refreshBundle env.py (env.turn shop.id).now
            (shop.view accessToken refreshToken)) = .ok (finish env.py _ body bundle) ∧ _ :=
        answer_ok haccepted ha hreadable.expires hreadable.refresh_expires
      have hnul := mt (finish_storable env.py shop accessToken refreshToken body hbshop).mp
        hreadable.shop_storable
      rw [heq]
      apply storeBundle_completes h ⟨haccepted, ha, hreadable⟩ hnul
      · rw [finish_accessToken, hbaccess]
      · exact decrypt_finish hrefresh hbrefresh (hw.nothing_lost body haccepted ha)

/-- A failure that nothing is written about is not counted. -/
lemma not_settled_of_unwritten (h : Present db shop row)
    (hno : ∀ body, ¬ Grants env.py shop.platform (env.turn shop.id).now
      (env.turn shop.id).answer body) : ¬ Settled env shop row db := by
  intro hsettled
  obtain ⟨row', hrow', hid, -, -, hcount⟩ := hsettled.counted hno
  rw [db.credentials_keyed.eq_of_key_eq hrow' h.row_mem (hid.trans h.owner.symm)] at hcount
  omega

/-- Where a shop has all it needs to ask, and the round still goes wrong for it, an object with an
access token was the answer. -/
lemma exists_trouble (hk : env.hasKeys shop.platform = true)
    (ha : ∃ token, env.cipher.decrypt row.accessTokenEnc = some token)
    (hr : ∃ token, env.cipher.decryptOptional row.refreshTokenEnc = some token)
    (hd : ∀ status text message,
      (env.turn shop.id).answer ≠ .response status (.error (.other message)) text)
    (hw : ¬ MeetsWell env shop row) :
    ∃ body, (env.turn shop.id).answer.accepted = some body ∧
      accessOf env.py shop.platform body ≠ "" ∧
      (Readable env.py shop.platform (env.turn shop.id).now body →
        refreshOf env.py shop.platform body = none ∧ row.refreshTokenEnc ≠ none ∧
          keepsOwn shop.platform body = false) := by
  by_contra hall
  push Not at hall
  apply hw
  refine ⟨hk, ha, hr, hd, ?_, ?_⟩
  · intro body hb hne
    exact (hall body hb hne).1
  · intro body hb hne hnone
    obtain ⟨-, hkeep⟩ := hall body hb hne
    by_cases hrow : row.refreshTokenEnc = none
    · exact .inl hrow
    · exact .inr (by simpa using hkeep hnone hrow)

/-- A dropped refresh token is not the one the shop had. -/
lemma decrypt_ne_none {refreshToken : Option String}
    (hr : env.cipher.decryptOptional row.refreshTokenEnc = some refreshToken)
    (hrow : row.refreshTokenEnc ≠ none) : refreshToken ≠ none := by
  rintro rfl
  cases hrow' : row.refreshTokenEnc with
  | none => exact hrow hrow'
  | some token => simp [hrow', Cipher.decryptOptional] at hr

/-- A shop that meets trouble: its platform is not asked, or the shop is not settled. -/
theorem refreshOne_not_settled (h : Present db shop row) (hw : ¬ MeetsWell env shop row) :
    ¬ ((refreshOne env shop.tenantId shop.id db).asked = true ∧
      Settled env shop row (refreshOne env shop.tenantId shop.id db).db) := by
  rintro ⟨hasked, hsettled⟩
  by_cases hready : env.hasKeys shop.platform = true ∧
      (∃ token, env.cipher.decrypt row.accessTokenEnc = some token) ∧
      ∃ token, env.cipher.decryptOptional row.refreshTokenEnc = some token
  swap
  · obtain ⟨e, heq⟩ := refreshOne_not_asked h hready
    rw [heq] at hasked
    cases hasked
  obtain ⟨hk, ha, hr⟩ := hready
  obtain ⟨accessToken, haccess⟩ := ha
  obtain ⟨refreshToken, hrefresh⟩ := hr
  rw [refreshOne_asked h hk haccess hrefresh] at hsettled
  by_cases hd : ∀ status text message,
      (env.turn shop.id).answer ≠ .response status (.error (.other message)) text
  swap
  · push Not at hd
    obtain ⟨status, text, message, hanswer⟩ := hd
    rw [hanswer] at hsettled
    apply not_settled_of_unwritten h _ hsettled
    rintro body ⟨hb, -⟩
    rw [hanswer] at hb
    cases hb
  obtain ⟨body, haccepted, hne, hlost⟩ := exists_trouble hk ⟨_, haccess⟩ ⟨_, hrefresh⟩ hd hw
  have no_grants (hno : ¬ Readable env.py shop.platform (env.turn shop.id).now body) :
      ∀ body, ¬ Grants env.py shop.platform (env.turn shop.id).now
        (env.turn shop.id).answer body := by
    rintro body' ⟨hb, -, hreadable⟩
    rw [grants_unique haccepted hb] at hreadable
    exact hno hreadable
  by_cases htimes : IsLifetime (env.turn shop.id).now (expireIn (tokenPart shop.platform body)) ∧
      (((tokenPart shop.platform body).get "refresh_expires_in").truthy →
        IsLifetime (env.turn shop.id).now
          ((tokenPart shop.platform body).get "refresh_expires_in"))
  swap
  · obtain ⟨text, heq⟩ : ∃ text, (env.turn shop.id).answer.request.bind (refreshBundle env.py
        (env.turn shop.id).now (shop.view accessToken refreshToken)) = .error (.other text) :=
      answer_raised haccepted hne htimes
    rw [heq] at hsettled
    exact not_settled_of_unwritten h (no_grants fun hno => htimes ⟨hno.1, hno.2⟩) hsettled
  obtain ⟨bundle, heq, hbaccess, hbrefresh, hbshop⟩ : ∃ bundle,
      (env.turn shop.id).answer.request.bind (refreshBundle env.py (env.turn shop.id).now
        (shop.view accessToken refreshToken)) = .ok (finish env.py _ body bundle) ∧ _ :=
    answer_ok haccepted hne htimes.1 htimes.2
  obtain ⟨saved, -, hsrefresh, hstore⟩ := @storeBundle_eq env db shop row (env.turn shop.id)
    (finish env.py (shop.view accessToken refreshToken) body bundle)
  rw [heq, afterAdapter, hstore] at hsettled
  by_cases hnul : '\x00' ∈
      (finish env.py (shop.view accessToken refreshToken) body bundle).platformShopId.toList
  · rw [if_pos hnul] at hsettled
    rw [finish_storable env.py shop accessToken refreshToken body hbshop] at hnul
    exact not_settled_of_unwritten h (no_grants fun hno => hno.shop_storable hnul) hsettled
  · rw [if_neg hnul] at hsettled
    rw [finish_storable env.py shop accessToken refreshToken body hbshop] at hnul
    have hreadable : Readable env.py shop.platform (env.turn shop.id).now body :=
      ⟨htimes.1, htimes.2, hnul⟩
    obtain ⟨hnone, hrow, hkeep⟩ := hlost hreadable
    obtain ⟨row', hrow', hid, -, hstored⟩ := hsettled.stored body ⟨haccepted, hne, hreadable⟩
    obtain rfl : row' = applyBundle env.cipher (env.turn shop.id) row saved := by
      refine (Bindings.mem_save h.row_mem ?_ ?_ (hid.trans h.owner.symm)).mp hrow' <;> rfl
    rw [(@decrypt_applyBundle env row (env.turn shop.id) saved).2, hsrefresh, finish_refreshToken,
      hkeep, hbrefresh, hnone, hrefresh] at hstored
    exact decrypt_ne_none hrefresh hrow (by simpa using hstored.symm)

end

/-! ### The other shops -/

/-- Only what belongs to this shop may differ. -/
structure SameOthers (shopId : ℕ) (db db' : Bindings) : Prop where
  shops : ∀ s : Shop, s.id ≠ shopId → (s ∈ db'.shops ↔ s ∈ db.shops)
  credentials : ∀ c : ShopCredential, c.shopId ≠ shopId →
    (c ∈ db'.credentials ↔ c ∈ db.credentials)

lemma SameOthers.refl (shopId : ℕ) (db : Bindings) : SameOthers shopId db db :=
  ⟨fun _ _ => Iff.rfl, fun _ _ => Iff.rfl⟩

lemma SameOthers.save {shopId : ℕ} {db : Bindings} {shop : Shop} {row : ShopCredential}
    (hs : shop.id = shopId) (h : row.shopId = shopId) :
    SameOthers shopId db (db.save shop row) where
  shops := by
    intro s hne
    apply Table.mem_alter_iff_of_ne _ (hs ▸ hne)
    intro _
    rfl
  credentials := by
    intro c hc
    apply Table.mem_alter_iff_of_ne _ (h ▸ hc)
    intro _
    rfl

lemma afterAdapter_sameOthers (env : Setting) (shop : Shop) {row : ShopCredential}
    (h : row.shopId = shop.id) (db : Bindings) (result : Except HandlingError TokenBundle) :
    SameOthers shop.id db (afterAdapter env shop row db result).db := by
  unfold afterAdapter
  split
  · apply SameOthers.save
    · rfl
    · exact h
  · exact SameOthers.refl _ db
  · next bundle =>
    obtain ⟨saved, -, -, hstore⟩ := @storeBundle_eq env db shop row (env.turn shop.id) bundle
    rw [hstore]
    split
    · exact SameOthers.refl _ db
    · apply SameOthers.save
      · rfl
      · exact h

/-- The work on one shop leaves the others as they are. -/
theorem refreshOne_sameOthers (env : Setting) (tenantId shopId : ℕ) (db : Bindings) :
    SameOthers shopId db (refreshOne env tenantId shopId db).db := by
  unfold refreshOne
  split
  · next shop row hs hr =>
    have hs := List.find?_some hs
    have hr := List.find?_some hr
    simp only [decide_eq_true_eq] at hs hr
    obtain ⟨rfl, -⟩ := hs
    split
    · exact SameOthers.refl _ db
    · split
      · exact SameOthers.refl _ db
      · split
        · exact SameOthers.refl _ db
        · exact afterAdapter_sameOthers env shop hr.1 db _
  · exact SameOthers.refl _ db

/-! ### The round -/

section

variable {env : Setting}

lemma refreshDue_cons (d : ℕ × ℕ) (rest : List (ℕ × ℕ)) (p : Progress) :
    (refreshDue env (d :: rest) p).1 =
      match (refreshOne env d.2 d.1 p.db).outcome with
      | .error _ => p.add d.1 (refreshOne env d.2 d.1 p.db)
      | .ok _ => (refreshDue env rest (p.add d.1 (refreshOne env d.2 d.1 p.db))).1 := by
  simp only [refreshDue]
  cases (refreshOne env d.2 d.1 p.db).outcome <;> rfl

/-- A round leaves the shops it does not come to as they are, and does not ask for them. -/
lemma refreshDue_others (due : List (ℕ × ℕ)) (p : Progress) {shopId : ℕ}
    (h : ∀ d ∈ due, d.1 ≠ shopId) :
    (∀ c : ShopCredential, c.shopId = shopId →
      (c ∈ (refreshDue env due p).1.db.credentials ↔ c ∈ p.db.credentials)) ∧
    (shopId ∈ (refreshDue env due p).1.asked ↔ shopId ∈ p.asked) := by
  induction due generalizing p with
  | nil => exact ⟨fun _ _ => Iff.rfl, Iff.rfl⟩
  | cons d rest ih =>
    have hd : d.1 ≠ shopId := h d (by simp)
    have hsame := refreshOne_sameOthers env d.2 d.1 p.db
    have hasked : shopId ∈ (p.add d.1 (refreshOne env d.2 d.1 p.db)).asked ↔ shopId ∈ p.asked := by
      simp only [Progress.add]
      split <;> simp [hd.symm]
    rw [refreshDue_cons]
    split
    · refine ⟨?_, hasked⟩
      intro c hc
      exact hsame.credentials c (hc ▸ hd.symm)
    · obtain ⟨hrows, hask⟩ := ih (p.add d.1 (refreshOne env d.2 d.1 p.db))
        fun d hd => h d (List.mem_cons_of_mem _ hd)
      refine ⟨?_, hask.trans hasked⟩
      intro c hc
      exact (hrows c hc).trans (hsame.credentials c (hc ▸ hd.symm))

lemma Settled.congr {shop : Shop} {row : ShopCredential} {db db' : Bindings}
    (h : ∀ c : ShopCredential, c.shopId = shop.id → (c ∈ db'.credentials ↔ c ∈ db.credentials)) :
    Settled env shop row db' ↔ Settled env shop row db := by
  constructor
  · intro hs
    constructor
    · intro body hg
      obtain ⟨row', hr, hid, hrest⟩ := hs.stored body hg
      exact ⟨row', (h row' hid).mp hr, hid, hrest⟩
    · intro hno
      obtain ⟨row', hr, hid, hrest⟩ := hs.counted hno
      exact ⟨row', (h row' hid).mp hr, hid, hrest⟩
  · intro hs
    constructor
    · intro body hg
      obtain ⟨row', hr, hid, hrest⟩ := hs.stored body hg
      exact ⟨row', (h row' hid).mpr hr, hid, hrest⟩
    · intro hno
      obtain ⟨row', hr, hid, hrest⟩ := hs.counted hno
      exact ⟨row', (h row' hid).mpr hr, hid, hrest⟩

lemma Present.of_sameOthers {shop : Shop} {row : ShopCredential} {db db' : Bindings} {shopId : ℕ}
    (h : Present db shop row) (hsame : SameOthers shopId db db') (hne : shop.id ≠ shopId) :
    Present db' shop row where
  shop_mem := (hsame.shops shop hne).mpr h.shop_mem
  row_mem := (hsame.credentials row (h.owner ▸ hne)).mpr h.row_mem
  owner := h.owner
  active := h.active
  kept := h.kept

/-- What the loop does for its first shop. -/
lemma refreshDue_head {shop : Shop} {row : ShopCredential} {rest : List (ℕ × ℕ)} {p : Progress}
    (hothers : ∀ e ∈ rest, e.1 ≠ shop.id) (hnew : shop.id ∉ p.asked) :
    (shop.id ∈ (refreshDue env ((shop.id, shop.tenantId) :: rest) p).1.asked ∧
      Settled env shop row (refreshDue env ((shop.id, shop.tenantId) :: rest) p).1.db) ↔
    ((refreshOne env shop.tenantId shop.id p.db).asked = true ∧
      Settled env shop row (refreshOne env shop.tenantId shop.id p.db).db) := by
  have hasked : shop.id ∈ (p.add shop.id (refreshOne env shop.tenantId shop.id p.db)).asked ↔
      (refreshOne env shop.tenantId shop.id p.db).asked = true := by
    simp only [Progress.add]
    split <;> simp [*]
  rw [refreshDue_cons]
  dsimp only
  split
  · rw [hasked]
    rfl
  · obtain ⟨hrows, hask⟩ := refreshDue_others rest
      (p.add shop.id (refreshOne env shop.tenantId shop.id p.db)) hothers
    rw [hask, hasked, Settled.congr hrows]
    rfl

/-- The loop over due shops: it does what it should for each of them exactly if each meets no
trouble. The induction follows the loop. The first shop that meets trouble is not asked for or not
settled, and what comes after it in the loop does not touch it. -/
theorem refreshDue_settles_iff (env : Setting) (due : List (Shop × ShopCredential)) (p : Progress)
    (hnodup : (due.map fun d => d.1.id).Nodup) (hdb : ∀ d ∈ due, Present p.db d.1 d.2)
    (hnew : ∀ d ∈ due, d.1.id ∉ p.asked) :
    (∀ d ∈ due, d.1.id ∈ (refreshDue env (due.map fun d => (d.1.id, d.1.tenantId)) p).1.asked ∧
      Settled env d.1 d.2 (refreshDue env (due.map fun d => (d.1.id, d.1.tenantId)) p).1.db) ↔
    ∀ d ∈ due, MeetsWell env d.1 d.2 := by
  induction due generalizing p with
  | nil => simp
  | cons d rest ih =>
    obtain ⟨hfresh, hrest⟩ := List.nodup_cons.mp hnodup
    have hothers : ∀ e ∈ rest, e.1.id ≠ d.1.id := by
      intro e he heq
      exact hfresh (List.mem_map.mpr ⟨e, he, heq⟩)
    have hothers' : ∀ e ∈ rest.map fun d => (d.1.id, d.1.tenantId), e.1 ≠ d.1.id := by
      intro e he
      obtain ⟨e', he', rfl⟩ := List.mem_map.mp he
      exact hothers e' he'
    have hpresent := hdb d (by simp)
    simp only [List.map_cons, List.forall_mem_cons]
    rw [refreshDue_head hothers' (hnew d (by simp))]
    by_cases hw : MeetsWell env d.1 d.2
    · have hc := refreshOne_completes hpresent hw
      obtain ⟨o, ho⟩ := hc.goes_on
      have hsame := refreshOne_sameOthers env d.1.tenantId d.1.id p.db
      have hstep : (refreshDue env ((d.1.id, d.1.tenantId) ::
            rest.map fun d => (d.1.id, d.1.tenantId)) p).1 =
          (refreshDue env (rest.map fun d => (d.1.id, d.1.tenantId))
            (p.add d.1.id (refreshOne env d.1.tenantId d.1.id p.db))).1 := by
        rw [refreshDue_cons]
        simp only [ho]
      rw [hstep, ih]
      · simp only [hc.asked, hc.settled, hw, true_and]
      · exact hrest
      · intro e he
        exact (hdb e (List.mem_cons_of_mem _ he)).of_sameOthers hsame (hothers e he)
      · intro e he
        have := hnew e (List.mem_cons_of_mem _ he)
        simp only [Progress.add]
        split <;> simp [this, hothers e he]
    · have hno := refreshOne_not_settled hpresent hw
      simp only [hno, hw, false_and]

end

/-- A shop is due: it is in use, and its token expires within the lead. -/
structure IsDue (env : Setting) (now : Instant) (shop : Shop) (row : ShopCredential) : Prop where
  owner : row.shopId = shop.id
  active : shop.status = .active
  kept : shop.deleted = false
  expiring : row.expiresAt ≤ now + env.leadMinutes * 60000000

/-- The due shops with their credentials. -/
def dueRows (env : Setting) (now : Instant) (db : Bindings) : List (Shop × ShopCredential) :=
  db.credentials.filterMap fun c =>
    (db.shops.find? fun s => s.id = c.shopId).bind fun s =>
      if !s.deleted ∧ s.status = .active ∧ c.expiresAt ≤ now + env.leadMinutes * 60000000 then
        some (s, c)
      else none

section

variable {env : Setting} {now : Instant} {db : Bindings}

/-- The shop of a credential, if it is due. -/
lemma dueRow_eq_some {c : ShopCredential} {d : Shop × ShopCredential} :
    ((db.shops.find? fun s => s.id = c.shopId).bind fun s =>
      if !s.deleted ∧ s.status = .active ∧ c.expiresAt ≤ now + env.leadMinutes * 60000000 then
        some (s, c)
      else none) = some d ↔ d.1 ∈ db.shops ∧ d.2 = c ∧ IsDue env now d.1 d.2 := by
  obtain ⟨shop, row⟩ := d
  simp only [Option.bind_eq_some_iff, Table.find?_eq_some_iff db.shops_keyed]
  constructor
  · rintro ⟨s, ⟨hs, hid⟩, h⟩
    split_ifs at h with hdue
    cases h
    exact ⟨hs, rfl, hid.symm, hdue.2.1, by simpa using hdue.1, hdue.2.2⟩
  · rintro ⟨hs, rfl, hdue⟩
    refine ⟨shop, ⟨hs, hdue.owner.symm⟩, ?_⟩
    rw [if_pos ⟨by simp [hdue.kept], hdue.active, hdue.expiring⟩]

lemma mem_dueRows {d : Shop × ShopCredential} :
    d ∈ dueRows env now db ↔ d.1 ∈ db.shops ∧ d.2 ∈ db.credentials ∧ IsDue env now d.1 d.2 := by
  simp only [dueRows, List.mem_filterMap, dueRow_eq_some]
  constructor
  · rintro ⟨c, hc, hs, rfl, hdue⟩
    exact ⟨hs, hc, hdue⟩
  · rintro ⟨hs, hc, hdue⟩
    exact ⟨d.2, hc, hs, rfl, hdue⟩

lemma dueShops_eq :
    dueShops env now db = (dueRows env now db).map fun d => (d.1.id, d.1.tenantId) := by
  rw [dueRows, List.map_filterMap, dueShops]
  apply List.filterMap_congr
  intro c hc
  cases hs : db.shops.find? fun s => s.id = c.shopId with
  | none => rfl
  | some s =>
    obtain ⟨hmem, hid⟩ := (Table.find?_eq_some_iff db.shops_keyed).mp hs
    simp only [Option.bind_some]
    split_ifs
    · simp [hid, db.same_tenant s hmem c hc hid.symm]
    · rfl

lemma dueRows_nodup : ((dueRows env now db).map fun d => d.1.id).Nodup := by
  have hkeyed : db.credentials.Pairwise fun c c' => c.shopId ≠ c'.shopId :=
    List.pairwise_map.mp db.credentials_keyed
  rw [List.Nodup, List.pairwise_map, dueRows, List.pairwise_filterMap]
  apply hkeyed.imp
  intro c c' hne d hd d' hd'
  obtain ⟨-, rfl, hdue⟩ := dueRow_eq_some.mp hd
  obtain ⟨-, rfl, hdue'⟩ := dueRow_eq_some.mp hd'
  rw [← hdue.owner, ← hdue'.owner]
  exact hne

end

/-- Every due shop is asked for, keeps or renews its tokens as it should and has its failure counted,
exactly if no due shop meets trouble. -/
theorem round_settles_iff (env : Setting) (now : Instant) (db : Bindings) :
    (∀ shop ∈ db.shops, ∀ row ∈ db.credentials, IsDue env now shop row →
      shop.id ∈ (refreshExpiringCredentials env now db).1.asked ∧
        Settled env shop row (refreshExpiringCredentials env now db).1.db) ↔
    ∀ shop ∈ db.shops, ∀ row ∈ db.credentials, IsDue env now shop row →
      MeetsWell env shop row := by
  have hloop := refreshDue_settles_iff env (dueRows env now db) ⟨0, 0, 0, [], db⟩
    dueRows_nodup
    (fun d hd => by
      obtain ⟨hs, hr, hdue⟩ := mem_dueRows.mp hd
      exact ⟨hs, hr, hdue.owner, hdue.active, hdue.kept⟩)
    (by simp)
  rw [← dueShops_eq] at hloop
  constructor
  · intro h shop hs row hr hdue
    refine hloop.mp ?_ (shop, row) (mem_dueRows.mpr ⟨hs, hr, hdue⟩)
    intro d hd
    obtain ⟨hs, hr, hdue⟩ := mem_dueRows.mp hd
    exact h d.1 hs d.2 hr hdue
  · intro h shop hs row hr hdue
    refine hloop.mpr ?_ (shop, row) (mem_dueRows.mpr ⟨hs, hr, hdue⟩)
    intro d hd
    obtain ⟨hs, hr, hdue⟩ := mem_dueRows.mp hd
    exact h d.1 hs d.2 hr hdue

/-- A Shopee shop of one tenant. -/
def shopOf (id : ℕ) : Shop where
  id
  tenantId := 1
  platform := .shopee
  siteCode := "SG"
  shopName := "Shopee SG"
  platformShopId := "900"
  status := .active
  lastError := none
  deleted := false
  supported := by decide
  bound := by decide
  storable := by decide

/-- Its tokens, long expired. -/
def credentialOf (shopId : ℕ) : ShopCredential where
  shopId
  tenantId := 1
  accessTokenEnc := "v1:access"
  refreshTokenEnc := some "v1:refresh"
  expiresAt := 0
  refreshExpiresAt := none
  extraShopId := some "900"
  refreshFailCount := 0
  lastRefreshError := none
  lastRefreshAt := none

def threeShops : Bindings where
  shops := [shopOf 1, shopOf 2, shopOf 3]
  credentials := [credentialOf 1, credentialOf 2, credentialOf 3]
  shops_keyed := by decide
  credentials_keyed := by decide
  same_tenant := by decide

/-- Shopee answers the first shop without a refresh token, and the second with a lifetime that is no
number. -/
def unevenAnswers : Setting where
  py := ⟨fun _ => .error .json, fun _ => .error .json, fun _ => "", fun _ => none, fun _ => ""⟩
  cipher :=
    { encrypt := fun _ plaintext => "v1:" ++ plaintext
      decrypt := fun token => some (String.ofList (token.toList.drop 3))
      decrypt_encrypt := by simp }
  hasKeys := fun _ => true
  threshold := 3
  leadMinutes := 30
  turn := fun shopId =>
    { now := 1000000
      savedAt := 1000000
      nonces := (1, 2)
      answer := .response 200
        (.ok (.dict [("access_token", .str "next"),
          ("expire_in", if shopId = 2 then .str "soon" else .int 14400)])) "" }

/-- The first shop loses its refresh token, and nothing is written about the failure of the second. -/
example : (refreshExpiringCredentials unevenAnswers 1000000 threeShops).1.db.credentials.map
    (fun c => (c.refreshTokenEnc, c.refreshFailCount)) =
    [(none, 0), (some "v1:refresh", 0), (some "v1:refresh", 0)] := by decide +kernel

/-- The third shop is not asked for. -/
theorem not_round_settles_threeShops :
    ¬ ∀ shop ∈ threeShops.shops, ∀ row ∈ threeShops.credentials,
      IsDue unevenAnswers 1000000 shop row →
      shop.id ∈ (refreshExpiringCredentials unevenAnswers 1000000 threeShops).1.asked ∧
        Settled unevenAnswers shop row
          (refreshExpiringCredentials unevenAnswers 1000000 threeShops).1.db := by
  intro h
  have hthird := (h (shopOf 3) (by decide) (credentialOf 3) (by decide)
    ⟨rfl, rfl, rfl, by decide⟩).1
  revert hthird
  decide +kernel

end CrossPilot.Tokens
