import CrossPilot.Lib.Joined
import CrossPilot.Sync.Pushed
import Mathlib

/-!
# The ids of events

The id of an event joins fields of its body by colons. Blank fields are left out and colons in the
fields are not marked, so that two bodies get the same id just when cutting their fields at colons
gives the same pieces. An event that tells of another shop, order, status or time is dropped as a
duplicate in that case.
-/

namespace CrossPilot.Webhook

/-- What the id of the event in a body is made of. -/
def idParts (py : Python) (p : Platform) (body : ByteArray) : List Json :=
  match loadObject py body, p with
  | .error _, _ => []
  | .ok payload, .tiktok => tiktokIdParts py payload
  | .ok payload, .shopee => shopeeIdParts py payload
  | .ok payload, .lazada => lazadaIdParts py payload
  | .ok payload, .amazon =>
    if isConfirmType (py.textOf (payload.get "Type")) then confirmIdParts py payload
    else
      match notificationBody py payload with
      | .error _ => []
      | .ok inner => notificationIdParts py payload inner

/-- The fields that an id is made of, without blanks and blank fields, cut at colons. -/
def idPieces (py : Python) (p : Platform) (body : ByteArray) : List (List Char) :=
  Joined.pieces ':' ((presentParts py (idParts py p body)).map String.toList)

/-- What an event tells: the shop, the order, its status and the time. -/
def PushedEvent.tells (e : PushedEvent) :
    String × Option String × Option String × Option Datetime :=
  (e.platformShopId, e.platformOrderId, e.platformStatus, e.occurredAt)

/-- A digest is written in hexadecimal digits. -/
def Python.HexDigests (py : Python) : Prop :=
  ∀ data, ∀ c ∈ (py.sha256 data).toList, c ∈ "0123456789abcdef".toList

/-- The hash tells two texts apart. -/
def Python.Separates (py : Python) (raw raw' : String) : Prop :=
  py.sha256 raw.toUTF8 = py.sha256 raw'.toUTF8 → raw = raw'

variable {py : Python} {p : Platform} {body body' : ByteArray} {e e' : PushedEvent}

/-- An adapter's id is made of the parts of its body, the first of which is the platform's name. -/
lemma eventId_of_parseWebhook (h : parseWebhook py p body = .ok e) :
    e.eventId = coalesceId py (idParts py p body) ∧
      ∃ rest, idParts py p body = .str p.code :: rest := by
  cases hload : loadObject py body with
  | error err =>
    cases p <;>
      simp [parseWebhook, parseAmazonWebhook, parseShopeeWebhook, parseLazadaWebhook,
        parseTiktokWebhook, hload, bind, Except.bind] at h
  | ok payload =>
    cases p with
    | amazon =>
      simp only [parseWebhook, parseAmazonWebhook, hload, bind, Except.bind] at h
      by_cases hconfirm : isConfirmType (py.textOf (payload.get "Type"))
      · simp only [hconfirm, if_true, pure, Except.pure, Except.ok.injEq] at h
        subst h
        simp [idParts, hload, hconfirm, confirmIdParts, Platform.code]
      · simp only [hconfirm, Bool.false_eq_true, if_false] at h
        cases hinner : notificationBody py payload with
        | error err => simp [hinner] at h
        | ok inner =>
          simp only [hinner, pure, Except.pure, Except.ok.injEq] at h
          subst h
          simp [idParts, hload, hconfirm, hinner, notificationIdParts, Platform.code]
    | shopee =>
      simp only [parseWebhook, parseShopeeWebhook, hload, bind, Except.bind] at h
      cases hcode : (payload.get "code").intOrZero with
      | error err => simp [hcode] at h
      | ok code =>
        simp only [hcode, pure, Except.pure, Except.ok.injEq] at h
        subst h
        simp [idParts, hload, shopeeIdParts, Platform.code]
    | lazada =>
      simp only [parseWebhook, parseLazadaWebhook, hload, bind, Except.bind, pure, Except.pure,
        Except.ok.injEq] at h
      subst h
      simp [idParts, hload, lazadaIdParts, Platform.code]
    | tiktok =>
      simp only [parseWebhook, parseTiktokWebhook, hload, bind, Except.bind] at h
      cases htype : (payload.get "type").intOrZero with
      | error err => simp [htype] at h
      | ok eventType =>
        simp only [htype, pure, Except.pure, Except.ok.injEq] at h
        subst h
        simp [idParts, hload, tiktokIdParts, Platform.code]

/-- The name of a platform is one of the parts as it stands. -/
lemma presentParts_code (rest : List Json) :
    presentParts py (.str p.code :: rest) = p.code :: presentParts py rest := by
  have hstrip : Text.strip p.code = p.code := by cases p <;> decide +kernel
  have hsome : p.code ≠ "" := by cases p <;> decide +kernel
  simp [presentParts, Python.str, hstrip, hsome]

/-- The joined parts begin with the name of the platform. -/
lemma prefix_rawId (rest : List Json) :
    p.code.toList <+: (rawId py (.str p.code :: rest)).toList := by
  rw [rawId, presentParts_code, String.toList_intercalate, List.map_cons]
  cases hrest : (presentParts py rest).map String.toList with
  | nil => simp
  | cons part parts =>
    rw [List.intercalate_cons_cons, List.append_assoc]
    exact List.prefix_append _ _

/-- The joined parts are no digest: every platform's name has a letter that digests have not. -/
lemma rawId_ne_sha256 (hex : py.HexDigests) (rest : List Json) (data : ByteArray) :
    rawId py (.str p.code :: rest) ≠ py.sha256 data := by
  intro heq
  have hletter : ∃ c ∈ p.code.toList, c ∉ "0123456789abcdef".toList := by
    cases p
    · exact ⟨'m', by simp [Platform.code], by simp⟩
    · exact ⟨'s', by simp [Platform.code], by simp⟩
    · exact ⟨'l', by simp [Platform.code], by simp⟩
    · exact ⟨'t', by simp [Platform.code], by simp⟩
  obtain ⟨c, hc, hhex⟩ := hletter
  have hmem : c ∈ (rawId py (.str p.code :: rest)).toList := (prefix_rawId rest).subset hc
  rw [heq] at hmem
  exact hhex (hex data c hmem)

/-- Two ids of a platform are the same just when the joined parts are. -/
lemma coalesceId_eq_iff (hex : py.HexDigests) {rest rest' : List Json}
    (hsep : py.Separates (rawId py (.str p.code :: rest)) (rawId py (.str p.code :: rest'))) :
    coalesceId py (.str p.code :: rest) = coalesceId py (.str p.code :: rest') ↔
      rawId py (.str p.code :: rest) = rawId py (.str p.code :: rest') := by
  have hsome : ∀ parts, rawId py (.str p.code :: parts) ≠ "" := by
    intro parts hempty
    have hprefix : p.code.toList <+: (rawId py (.str p.code :: parts)).toList := prefix_rawId parts
    rw [hempty] at hprefix
    have hcode : p.code.toList = [] := List.prefix_nil.1 hprefix
    cases p <;> exact absurd hcode (by decide)
  constructor
  · intro heq
    simp only [coalesceId, hsome, if_false] at heq
    split_ifs at heq with hshort hshort' hshort'
    · exact heq
    · exact absurd heq (rawId_ne_sha256 hex rest _)
    · exact absurd heq.symm (rawId_ne_sha256 hex rest' _)
    · exact hsep heq
  · intro heq
    simp only [coalesceId, heq]

/-- The joined parts are the same just when the pieces are. -/
lemma rawId_eq_iff {parts parts' : List Json} (h : presentParts py parts ≠ [])
    (h' : presentParts py parts' ≠ []) :
    rawId py parts = rawId py parts' ↔
      Joined.pieces ':' ((presentParts py parts).map String.toList)
        = Joined.pieces ':' ((presentParts py parts').map String.toList) := by
  rw [← Joined.intercalate_eq_iff ':' (by simpa using h) (by simpa using h'), ← String.toList_inj,
    rawId, rawId, String.toList_intercalate, String.toList_intercalate]
  rfl

/-- **Which events are told apart.** Two events of a platform that tell of different shops, orders,
statuses or times get different ids just when their fields have different pieces. -/
theorem eventId_ne_iff (hex : py.HexDigests)
    (hsep : py.Separates (rawId py (idParts py p body)) (rawId py (idParts py p body')))
    (h : parseWebhook py p body = .ok e) (h' : parseWebhook py p body' = .ok e')
    (_ : e.tells ≠ e'.tells) : e.eventId ≠ e'.eventId ↔ idPieces py p body ≠ idPieces py p body' := by
  obtain ⟨hid, rest, hparts⟩ := eventId_of_parseWebhook h
  obtain ⟨hid', rest', hparts'⟩ := eventId_of_parseWebhook h'
  have hpresent : ∀ parts, presentParts py (.str p.code :: parts) ≠ [] := by
    intro parts
    simp [presentParts_code]
  rw [hparts, hparts'] at hsep
  rw [hid, hid', idPieces, idPieces, hparts, hparts', not_iff_not,
    coalesceId_eq_iff hex hsep, rawId_eq_iff (hpresent rest) (hpresent rest')]

/-! ### Two pushes of one order -/

/-- A push of TikTok about an order. -/
def tiktokPush (status : String) (updateTime : ℤ) : Json :=
  .dict [("type", .int 1), ("shop_id", .str "7494"),
    ("data", .dict [("order_id", .str "5764"), ("order_status", .str status),
      ("update_time", .int updateTime)])]

/-- Its text. -/
def tiktokPushText (status : String) (updateTime : ℤ) : String :=
  "\x7b\"type\":1,\"shop_id\":\"7494\",\"data\":\x7b\"order_id\":\"5764\",\"order_status\":\"" ++ status
    ++ "\",\"update_time\":" ++ toString updateTime ++ "\x7d\x7d"

/-- The event in it. -/
def tiktokEvent (status : String) (updateTime : ℤ) : PushedEvent where
  kind := .orderStatusChanged
  platformShopId := "7494"
  platformOrderId := some "5764"
  platform := "tiktok"
  eventId := "tiktok:7494:5764:" ++ status
  platformStatus := some status
  occurredAt := some (.aware (updateTime * 1000000))

/-- Python, as far as three pushes need it. -/
def samplePython : Python where
  loads body :=
    if body = (tiktokPushText "AWAITING_SHIPMENT" 1768467600).toUTF8 then
      .ok (tiktokPush "AWAITING_SHIPMENT" 1768467600)
    else if body = (tiktokPushText "AWAITING_SHIPMENT" 1768471200).toUTF8 then
      .ok (tiktokPush "AWAITING_SHIPMENT" 1768471200)
    else if body = (tiktokPushText "IN_TRANSIT" 1768474800).toUTF8 then
      .ok (tiktokPush "IN_TRANSIT" 1768474800)
    else .error .json
  loadsText _ := .error .json
  repr _ := ""
  fromisoformat _ := none
  sha256 data :=
    if data = "tiktok:7494:5764:IN_TRANSIT".toUTF8 then
      "5b9ad4b58e744aaf062eefaa96e7ab146933e45e5cde7898f00119f6562eaef5"
    else "234fae6c1e2542654278b96e96021b301da65026e350088f3710db2eceb85b47"

lemma samplePython_hexDigests : samplePython.HexDigests := by
  intro data
  simp only [samplePython]
  split_ifs
  · simp
  · simp

lemma parse_awaiting : parseWebhook samplePython .tiktok
    (tiktokPushText "AWAITING_SHIPMENT" 1768467600).toUTF8
      = .ok (tiktokEvent "AWAITING_SHIPMENT" 1768467600) := by
  decide +kernel

/-- The order is shipped: the two pushes are told apart. -/
theorem eventId_ne_iff_inTransit :
    (tiktokEvent "AWAITING_SHIPMENT" 1768467600).eventId
        ≠ (tiktokEvent "IN_TRANSIT" 1768474800).eventId ↔
      idPieces samplePython .tiktok (tiktokPushText "AWAITING_SHIPMENT" 1768467600).toUTF8
        ≠ idPieces samplePython .tiktok (tiktokPushText "IN_TRANSIT" 1768474800).toUTF8 :=
  eventId_ne_iff samplePython_hexDigests
    (fun heq => absurd heq (by decide +kernel)) parse_awaiting
    (by decide +kernel) (by decide)

/-- The order is held back and waits again, and the push has no notification id: the second push gets
the id of the first. -/
theorem not_eventId_ne_awaitingAgain :
    ¬ ∀ (p : Platform) (body body' : ByteArray) (e e' : PushedEvent),
      parseWebhook samplePython p body = .ok e → parseWebhook samplePython p body' = .ok e' →
        e.tells ≠ e'.tells → e.eventId ≠ e'.eventId := by
  intro h
  have hagain : parseWebhook samplePython .tiktok
      (tiktokPushText "AWAITING_SHIPMENT" 1768471200).toUTF8
        = .ok (tiktokEvent "AWAITING_SHIPMENT" 1768471200) := by decide +kernel
  exact h .tiktok _ _ _ _ parse_awaiting hagain (by decide) rfl

end CrossPilot.Webhook
