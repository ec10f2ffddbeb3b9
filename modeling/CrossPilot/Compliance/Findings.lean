import CrossPilot.Compliance.Alerts
import CrossPilot.Lib.Dict
import CrossPilot.Lib.Groups
import Mathlib.Data.String.Basic

/-!
# Checks before publishing and the check of the catalogue

Before a SKU is published to a market, what it lacks there is listed: the binding to a customs code,
and certificates that the market asks for in its category. The catalogue is checked at once: first what
the rules ask for, category by category, then all certificates that have run out or soon will, unless
they have been listed.
-/

namespace CrossPilot.Compliance

open Table

/-! ### Facts -/

inductive Level
  | l1 | l2
  deriving DecidableEq

inductive Code
  | hsMissing | certMissing | certExpired | certExpiring
  deriving DecidableEq

structure PublishFinding where
  level : Level
  code : Code
  market : Option String
  certType : Option String
  daysLeft : Option ℤ
  spuId : Option ℕ := none
  skuId : Option ℕ := none
  deriving DecidableEq

structure SpuFact where
  spuId : ℕ
  title : String
  categoryCode : Option String
  hsMarkets : Finset String

structure SkuFact where
  skuId : ℕ
  spuId : ℕ
  skuCode : String

structure CertFact where
  skuId : ℕ
  market : String
  certType : String
  expiresOn : Day

structure RuleFact where
  market : String
  categoryCode : String
  certType : String

/-! ### One SKU in one market -/

/-- `sorted` of a set of texts. -/
def inOrder (texts : Finset String) : List String := texts.sort (· ≤ ·)

inductive Gap
  | missing | expired
  deriving DecidableEq

/-- `cert_gaps`. A certificate counts on its last day. -/
def certGaps (required : Finset String) (heldUntil : String → Option Day) (today : Day) :
    List (String × Gap) :=
  (inOrder required).filterMap fun certType =>
    match heldUntil certType with
    | none => some (certType, .missing)
    | some expiresOn => if expiresOn < today then some (certType, .expired) else none

/-- `_WARN_WINDOWS`. -/
def isWarnWindow (window : Option AlertLevel) : Bool :=
  window = some .d7 ∨ window = some .d30 ∨ window = some .d60

/-- `_cert_findings`. -/
def certFindings (market : String) (required : Finset String) (heldUntil : String → Option Day)
    (today : Day) (spuId skuId : Option ℕ := none) : List PublishFinding :=
  (certGaps required heldUntil today).map (fun gap =>
      ⟨.l1, if gap.2 = .expired then .certExpired else .certMissing, market, gap.1, none, spuId,
        skuId⟩) ++
    (inOrder required).filterMap fun certType =>
      match heldUntil certType with
      | none => none
      | some expiresOn =>
        let daysLeft : ℤ := expiresOn - today
        if isWarnWindow (certWindow expiresOn today) ∧ daysLeft ≤ 60 then
          some ⟨.l2, .certExpiring, market, certType, daysLeft, spuId, skuId⟩
        else none

/-- `publish_findings`. -/
def publishFindings (market : String) (hsBound : Bool) (required : Finset String)
    (heldUntil : String → Option Day) (today : Day) : List PublishFinding :=
  (if hsBound then [] else [⟨.l1, .hsMissing, market, none, none, none, none⟩]) ++
    certFindings market required heldUntil today

/-! ### The catalogue -/

/-- The certificate that runs longest stays. -/
def hold (held : Dict (ℕ × String × String) Day) (cert : CertFact) :
    Dict (ℕ × String × String) Day :=
  let key := (cert.skuId, cert.market, cert.certType)
  match held.get key with
  | none => held.set key cert.expiresOn
  | some current => if current < cert.expiresOn then held.set key cert.expiresOn else held

/-- `_latest_certs`. -/
def latestCerts (certs : List CertFact) : Dict (ℕ × String × String) Day := certs.foldl hold .empty

/-- What has been listed, and for which SKUs, markets and certificates. -/
structure Listed where
  findings : List PublishFinding := []
  covered : Finset (ℕ × String × String × Code) := ∅

def Listed.append (s : Listed) (item : PublishFinding) : Listed :=
  { s with findings := s.findings ++ [item] }

/-- A finding of the rules is listed and covered. -/
def Listed.cover (skuId : ℕ) (market : String) (s : Listed) (item : PublishFinding) : Listed where
  findings := s.findings ++ [item]
  covered := match item.certType with
    | none => s.covered
    | some certType => insert (skuId, market, certType, item.code) s.covered

section

variable (held : Dict (ℕ × String × String) Day) (today : Day)

/-- What the rules of a market ask of a SKU. -/
def coverMarket (requiredBy : Dict (String × String) (Finset String)) (category : String)
    (spuId skuId : ℕ) (s : Listed) (market : String) : Listed :=
  match requiredBy.get (market, category) with
  | none => s
  | some required =>
    (certFindings market required
      (fun certType => if certType ∈ required then held.get (skuId, market, certType) else none)
      today spuId skuId).foldl (Listed.cover skuId market) s

/-- The markets with a rule for the category. -/
def marketsOf (requiredBy : Dict (String × String) (Finset String)) (category : String) :
    List String :=
  inOrder ((requiredBy.entries.filter fun e => e.1.2 = category).map fun e => e.1.1).toFinset

/-- `skus_by_spu.get(spu_id, [])`. -/
def skusOf (skusBySpu : List (ℕ × List SkuFact)) (spuId : ℕ) : List SkuFact :=
  ((skusBySpu.find? fun g => g.1 = spuId).map Prod.snd).getD []

def coverSpu (requiredBy : Dict (String × String) (Finset String))
    (skusBySpu : List (ℕ × List SkuFact)) (s : Listed) (spu : SpuFact) : Listed :=
  let s₁ := if spu.hsMarkets = ∅ then
      s.append ⟨.l1, .hsMissing, none, none, none, spu.spuId, none⟩
    else s
  match spu.categoryCode with
  | none => s₁
  | some category =>
    if category = "" then s₁
    else
      (skusOf skusBySpu spu.spuId).foldl (fun s sku =>
        (marketsOf requiredBy category).foldl
          (coverMarket held today requiredBy category spu.spuId sku.skuId) s) s₁

/-- A certificate that has run out or soon will is listed, unless it is covered. -/
def listHeld (skuSpu : Dict ℕ ℕ) (s : Listed) (e : (ℕ × String × String) × Day) : Listed :=
  let (skuId, market, certType) := e.1
  match skuSpu.get skuId with
  | none => s
  | some spuId =>
    let window := certWindow e.2 today
    if window = some .expired then
      if (skuId, market, certType, Code.certExpired) ∈ s.covered then s
      else s.append ⟨.l1, .certExpired, market, certType, none, spuId, skuId⟩
    else if isWarnWindow window then
      if (skuId, market, certType, Code.certExpiring) ∈ s.covered then s
      else
        let daysLeft : ℤ := e.2 - today
        s.append ⟨.l2, .certExpiring, market, certType, daysLeft, spuId, skuId⟩
    else s

end

/-- `catalog_findings`. -/
def catalogFindings (spus : List SpuFact) (skus : List SkuFact) (certs : List CertFact)
    (rules : List RuleFact) (today : Day) : List PublishFinding :=
  let skusBySpu := skus.foldl (Groups.place SkuFact.spuId) []
  let skuSpu := skus.foldl (fun d sku => d.set sku.skuId sku.spuId) Dict.empty
  let requiredBy := rules.foldl (fun d rule =>
    d.addTo (rule.market, rule.categoryCode) rule.certType) Dict.empty
  let held := latestCerts certs
  let s := spus.foldl (coverSpu held today requiredBy skusBySpu) {}
  (held.entries.foldl (listHeld today skuSpu) s).findings

end CrossPilot.Compliance
