import CrossPilot.Lib.Table

/-!
# Compliance notices

Once a day the tax rules that soon take effect and the certificates that soon expire are looked up,
and a notice is recorded for each window a due date has come into. A notice is recorded once for its
kind, level, row and due date. Between two scans everything but the notices may change in any way, so a
run is given by the tables that each scan finds.
-/

namespace CrossPilot.Compliance

/-- A day, counted from the epoch. -/
abbrev Day := ℤ

inductive TaxRuleStatus
  | active | disabled
  deriving DecidableEq

structure CountryTaxRule where
  id : ℕ
  country : String
  taxType : String
  hsCodePattern : String
  effectiveFrom : Day
  status : TaxRuleStatus
  deriving DecidableEq

structure ComplianceCertificate where
  id : ℕ
  skuId : ℕ
  market : String
  certType : String
  certNo : String
  expiresAt : Day
  deriving DecidableEq

structure Sku where
  id : ℕ
  deleted : Bool
  deriving DecidableEq

/-- The tables a scan reads. -/
structure Tables where
  rules : List CountryTaxRule
  certificates : List ComplianceCertificate
  skus : List Sku
  rules_keyed : Table.Keyed CountryTaxRule.id rules
  certificates_keyed : Table.Keyed ComplianceCertificate.id certificates

/-! ### Windows -/

inductive AlertLevel
  | d60 | d30 | d7 | expired
  deriving DecidableEq

/-- `tax_window`. -/
def taxWindow (effectiveFrom today : Day) : Option AlertLevel :=
  let days : ℤ := effectiveFrom - today
  if 0 ≤ days ∧ days ≤ 7 then some .d7 else none

/-- `cert_window`. -/
def certWindow (expiresOn today : Day) : Option AlertLevel :=
  let days : ℤ := expiresOn - today
  if days < 0 then some .expired
  else if days ≤ 7 then some .d7
  else if days ≤ 30 then some .d30
  else if days ≤ 60 then some .d60
  else none

/-- `tax_horizon`. -/
def taxHorizon (today : Day) : Day := today + 7

/-- `cert_horizon`. -/
def certHorizon (today : Day) : Day := today + 60

/-! ### Queries -/

/-- `ALERT_LIMIT`. -/
def alertLimit : ℕ := 200

/-- `list_becoming_effective`. -/
def Tables.listBecomingEffective (t : Tables) (today horizon : Day) : List CountryTaxRule :=
  t.rules.filter fun r =>
    r.status = .active ∧ today ≤ r.effectiveFrom ∧ r.effectiveFrom ≤ horizon

/-- `list_in_horizon`. -/
def Tables.listInHorizon (t : Tables) (horizon : Day) (limit : ℕ) : List ComplianceCertificate :=
  ((t.certificates.filter fun c =>
    (t.skus.any fun s => s.id = c.skuId ∧ !s.deleted) ∧ c.expiresAt ≤ horizon).insertionSort
      fun c c' => c.expiresAt ≤ c'.expiresAt).take limit

/-! ### Notices -/

inductive NoticeKind
  | taxEffective | certExpiry
  deriving DecidableEq

/-- What a notice is recorded once for. -/
structure NoticeKey where
  kind : NoticeKind
  level : AlertLevel
  refId : ℕ
  dueOn : Day
  deriving DecidableEq

structure ComplianceNotice where
  key : NoticeKey
  summary : String
  emailed : Bool
  deriving DecidableEq

/-- `tax_summary`. -/
def taxSummary (isoformat : Day → String) (r : CountryTaxRule) : String :=
  r.country ++ " " ++ r.taxType ++ " " ++ r.hsCodePattern ++ " 将于 " ++ isoformat r.effectiveFrom ++
    " 生效"

/-- `cert_summary`. -/
def certSummary (isoformat : Day → String) (c : ComplianceCertificate) (level : AlertLevel) :
    String :=
  let tail := if level = .expired then (" 已于 ", " 过期") else (" 将于 ", " 到期")
  c.market ++ " " ++ c.certType ++ " " ++ c.certNo ++ tail.1 ++ isoformat c.expiresAt ++ tail.2

/-- What a rule or a certificate asks for on a day. -/
def ruleWindow (isoformat : Day → String) (today : Day) (r : CountryTaxRule) :
    Option (NoticeKey × String) :=
  (taxWindow r.effectiveFrom today).map fun level =>
    (⟨.taxEffective, level, r.id, r.effectiveFrom⟩, taxSummary isoformat r)

@[inherit_doc ruleWindow]
def certificateWindow (isoformat : Day → String) (today : Day) (c : ComplianceCertificate) :
    Option (NoticeKey × String) :=
  (certWindow c.expiresAt today).map fun level =>
    (⟨.certExpiry, level, c.id, c.expiresAt⟩, certSummary isoformat c level)

/-- `_windows`. -/
def windows (isoformat : Day → String) (t : Tables) (today : Day) : List (NoticeKey × String) :=
  (t.listBecomingEffective today (taxHorizon today)).filterMap (ruleWindow isoformat today) ++
    (t.listInHorizon (certHorizon today) alertLimit).filterMap (certificateWindow isoformat today)

/-- One turn of the loop of `dispatch`: the notices, and how many mails were sent. -/
def record (recipient : String) (s : List ComplianceNotice × ℕ) (w : NoticeKey × String) :
    List ComplianceNotice × ℕ :=
  if w.1.level = .expired then s
  else if (s.1.find? fun n => n.key = w.1).isSome then s
  else
    let emailed := recipient ≠ ""
    (s.1 ++ [⟨w.1, w.2, emailed⟩], if emailed then s.2 + 1 else s.2)

/-- `dispatch`. The recipient is the tenant's contact, or the empty text. -/
def dispatch (isoformat : Day → String) (recipient : String) (t : Tables) (today : Day)
    (notices : List ComplianceNotice) : List ComplianceNotice × ℕ :=
  (windows isoformat t today).foldl (record recipient) (notices, 0)

/-- A scan: its day, what it finds, and the recipient of that day. -/
structure Scan where
  today : Day
  tables : Tables
  recipient : String

/-- The notices after a run of scans. -/
def noticesAfter (isoformat : Day → String) (scans : List Scan) : List ComplianceNotice :=
  scans.foldl (fun notices s => (dispatch isoformat s.recipient s.tables s.today notices).1) []

end CrossPilot.Compliance
