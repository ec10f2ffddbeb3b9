import CrossPilot.Finance.Materialize

/-!
# Versions of rules

Tax rules and fees are kept in versions. Each has a half open period of days; the versions of one key
are numbered, and a unique index knows key and number. A new version cuts the one that was open
short, and must not overlap any other that is active. A version that is retired stays in the table,
disabled and with an end.

Both services do the same; what they differ in is their table (`RuleTable`).
-/

namespace CrossPilot

open Transaction Table LandedCostService

/-- `ranges_overlap`: whether the half open ranges have a day in common. A missing end is open. -/
def rangesOverlap (startA : Day) (endA : Option Day) (startB : Day) (endB : Option Day) : Bool :=
  let aReachesB := endB.all (startA < ·)
  let bReachesA := endA.all (startB < ·)
  aReachesB && bReachesA

/-- `percent_to_fraction`. -/
def percentToFraction (percent : ℚ) : Except ServiceError ℚ :=
  if percent < 0 then .error (.paramInvalid "税率不能为负")
  else
    let fraction := Decimals.quantize 6 (percent / 100)
    if 10 < fraction then .error (.paramInvalid "税率超出允许范围") else .ok fraction

/-- `retire_end`: the end of a version that is retired. -/
def retireEnd (effectiveFrom : Day) (effectiveTo : Option Day) (today : Day) : Day :=
  match effectiveTo with
  | some finish =>
    if finish ≤ today ∧ effectiveFrom < finish then finish
    else if effectiveFrom < today then today
    else effectiveFrom + 1
  | none => if effectiveFrom < today then today else effectiveFrom + 1

/-- A period of days. The schemas check that the end is later than the start. -/
structure Period where
  effectiveFrom : Day
  effectiveTo : Option Day := none
  ordered : ∀ finish ∈ effectiveTo, effectiveFrom < finish := by decide

/-- The columns that versions of all kinds have. -/
structure VersionColumns (κ : Type) where
  id : ℕ
  key : κ
  effectiveFrom : Day
  effectiveTo : Option Day
  version : ℕ
  status : RuleStatus

/-- A table of versions: where its rows and their columns are, and what a statement locks. -/
structure RuleTable (ρ κ : Type) where
  rows : Db → List ρ
  setRows : List ρ → Db → Db
  columns : ρ → VersionColumns κ
  setColumns : VersionColumns κ → ρ → ρ
  rowLock : ℕ → RowKey
  versionLock : κ → ℕ → RowKey
  rows_setRows : ∀ rs d, rows (setRows rs d) = rs := by intros; rfl
  columns_setColumns : ∀ c r, columns (setColumns c r) = c := by intros; rfl

namespace RuleTable

variable {ρ κ : Type} (T : RuleTable ρ κ)

def id (row : ρ) : ℕ := (T.columns row).id

def key (row : ρ) : κ := (T.columns row).key

def effectiveFrom (row : ρ) : Day := (T.columns row).effectiveFrom

def effectiveTo (row : ρ) : Option Day := (T.columns row).effectiveTo

def version (row : ρ) : ℕ := (T.columns row).version

def status (row : ρ) : RuleStatus := (T.columns row).status

/-- `row.effective_to = finish`. -/
def endOn (finish : Day) (row : ρ) : ρ :=
  T.setColumns { T.columns row with effectiveTo := some finish } row

/-- `row.status = DISABLED`. -/
def disable (row : ρ) : ρ := T.setColumns { T.columns row with status := .disabled } row

/-- What is written when a version is retired. Only columns that change are. -/
def retired (row : ρ) (today : Day) (old : ρ) : ρ :=
  let finish := retireEnd (T.effectiveFrom row) (T.effectiveTo row) today
  if T.effectiveTo row = some finish then T.disable old else T.endOn finish (T.disable old)

@[simp] lemma id_endOn (finish : Day) (r : ρ) : T.id (T.endOn finish r) = T.id r := by
  simp [id, endOn, T.columns_setColumns]

@[simp] lemma key_endOn (finish : Day) (r : ρ) : T.key (T.endOn finish r) = T.key r := by
  simp [key, endOn, T.columns_setColumns]

@[simp] lemma version_endOn (finish : Day) (r : ρ) : T.version (T.endOn finish r) = T.version r := by
  simp [version, endOn, T.columns_setColumns]

@[simp] lemma status_endOn (finish : Day) (r : ρ) : T.status (T.endOn finish r) = T.status r := by
  simp [status, endOn, T.columns_setColumns]

@[simp] lemma effectiveFrom_endOn (finish : Day) (r : ρ) :
    T.effectiveFrom (T.endOn finish r) = T.effectiveFrom r := by
  simp [effectiveFrom, endOn, T.columns_setColumns]

@[simp] lemma effectiveTo_endOn (finish : Day) (r : ρ) :
    T.effectiveTo (T.endOn finish r) = some finish := by
  simp [effectiveTo, endOn, T.columns_setColumns]

@[simp] lemma id_disable (r : ρ) : T.id (T.disable r) = T.id r := by
  simp [id, disable, T.columns_setColumns]

@[simp] lemma key_disable (r : ρ) : T.key (T.disable r) = T.key r := by
  simp [key, disable, T.columns_setColumns]

@[simp] lemma version_disable (r : ρ) : T.version (T.disable r) = T.version r := by
  simp [version, disable, T.columns_setColumns]

@[simp] lemma status_disable (r : ρ) : T.status (T.disable r) = .disabled := by
  simp [status, disable, T.columns_setColumns]

@[simp] lemma id_retired (row : ρ) (today : Day) (r : ρ) :
    T.id (T.retired row today r) = T.id r := by
  unfold retired
  dsimp only
  split_ifs <;> simp

@[simp] lemma key_retired (row : ρ) (today : Day) (r : ρ) :
    T.key (T.retired row today r) = T.key r := by
  unfold retired
  dsimp only
  split_ifs <;> simp

@[simp] lemma version_retired (row : ρ) (today : Day) (r : ρ) :
    T.version (T.retired row today r) = T.version r := by
  unfold retired
  dsimp only
  split_ifs <;> simp

@[simp] lemma effectiveFrom_disable (r : ρ) : T.effectiveFrom (T.disable r) = T.effectiveFrom r := by
  simp [effectiveFrom, disable, T.columns_setColumns]

@[simp] lemma effectiveTo_disable (r : ρ) : T.effectiveTo (T.disable r) = T.effectiveTo r := by
  simp [effectiveTo, disable, T.columns_setColumns]

@[simp] lemma effectiveFrom_retired (row : ρ) (today : Day) (r : ρ) :
    T.effectiveFrom (T.retired row today r) = T.effectiveFrom r := by
  unfold retired
  dsimp only
  split_ifs <;> simp

/-- A version that is retired as it was read has the end of `retireEnd`. -/
lemma effectiveTo_retired (row : ρ) (today : Day) : T.effectiveTo (T.retired row today row) =
    some (retireEnd (T.effectiveFrom row) (T.effectiveTo row) today) := by
  unfold retired
  dsimp only
  split_ifs with h
  · rw [effectiveTo_disable]
    exact h
  · simp

@[simp] lemma status_retired (row : ρ) (today : Day) (r : ρ) :
    T.status (T.retired row today r) = .disabled := by
  unfold retired
  dsimp only
  split_ifs <;> simp

/-! ### Requests -/

/-- The version that a new one cuts short: the only open one, if it begins earlier. -/
def truncated (active : List ρ) (period : Period) : Option ρ :=
  match active.filter fun row => T.effectiveTo row = none with
  | [current] =>
    if T.effectiveFrom current < period.effectiveFrom ∧
        rangesOverlap (T.effectiveFrom current) none period.effectiveFrom period.effectiveTo then
      some current
    else none
  | _ => none

/-- `ends[row.id]`: the end of a version beside the new one. -/
def endBeside (truncate : Option ρ) (period : Period) (row : ρ) : Option Day :=
  if truncate.any (T.id · = T.id row) then some period.effectiveFrom else T.effectiveTo row

/-- An active version overlaps the new one. -/
def overlaps (existing : List ρ) (period : Period) : Bool :=
  let active := existing.filter fun row => T.status row = .active
  let truncate := T.truncated active period
  active.any fun row =>
    rangesOverlap (T.effectiveFrom row) (T.endBeside truncate period row) period.effectiveFrom
      period.effectiveTo

/-- `max((row.version for row in existing), default=0) + 1`. -/
def nextVersion (existing : List ρ) : ℕ := (existing.map T.version).foldr max 0 + 1

/-- Rows with the same numbers have the same next number. -/
lemma nextVersion_map {g : ρ → ρ} (hg : ∀ r, T.version (g r) = T.version r) (rows : List ρ) :
    T.nextVersion (rows.map g) = T.nextVersion rows := by
  simp only [nextVersion, List.map_map]
  congr 2
  apply List.map_congr_left
  intro r _
  exact hg r

variable [DecidableEq κ]

/-- `list_for_key`. -/
def listForKey (d : Db) (key : κ) : List ρ := (T.rows d).filter fun row => T.key row = key

/-- The primary key or the unique index of key and version knows the row already. -/
def taken (d : Db) (row : ρ) : Bool :=
  (T.rows d).any fun old =>
    T.id old = T.id row || (T.key old = T.key row && T.version old = T.version row)

/-- The end of the version that is cut short is written. -/
def truncate (period : Period) : Option ρ → Work Unit
  | none => .ret ()
  | some current =>
    .update (fun _ => [T.rowLock (T.id current)])
      (fun _ d => T.setRows
        (alter T.id (T.id current) (T.endOn period.effectiveFrom) (T.rows d)) d)
      fun _ _ => ()

/-- `add`. -/
def add (row : ρ) : Work Unit := do
  let taken ← .update
    (fun _ => [T.rowLock (T.id row), T.versionLock (T.key row) (T.version row)])
    (fun _ d => if T.taken d row then d else T.setRows (T.rows d ++ [row]) d)
    fun _ d => T.taken d row
  if taken then raise (.integrity "version") else return ()

/-- `create` and `create_fee`. The amount is worked out after the rows are checked. -/
def create (key : κ) (period : Period) (overlap : ServiceError) (amount : Except ServiceError ℚ)
    (make : ℚ → ℕ → ℕ → ρ) : Work ρ := do
  let existing ← .select fun d => T.listForKey d key
  if T.overlaps existing period then raise overlap
  else
    match amount with
    | .error e => raise e
    | .ok amount =>
      T.truncate period (T.truncated (existing.filter fun row => T.status row = .active) period)
      let id ← nextSnowflakeId
      let row := make amount id (T.nextVersion existing)
      T.add row
      return row

/-- `retire` and `retire_fee`. -/
def retire (id : ℕ) (today : Day) : Work ρ := do
  match ← .select fun d => (T.rows d).find? fun row => T.id row = id with
  | none => raise .notFound
  | some row =>
    if T.status row = .disabled then return row
    else
      .update (fun _ => [T.rowLock id])
        (fun _ d => T.setRows (alter T.id id (T.retired row today) (T.rows d)) d)
        fun _ _ => T.retired row today row

end RuleTable

/-! ### Tax rules -/

/-- The columns of the unique constraint of the tax rules, without the version. -/
structure TaxKey where
  country : String
  taxType : TaxType
  hsCodePattern : String
  deriving DecidableEq

def CountryTaxRule.key (row : CountryTaxRule) : TaxKey :=
  ⟨row.country, row.taxType, row.hsCodePattern⟩

/-- A new tax rule, as its schema lets it through. -/
structure TaxRuleCreate where
  key : TaxKey
  rate : ℚ
  basisNumerator : ℕ := 1
  basisDenominator : ℕ := 1
  thresholdAmount : Option ℚ := none
  thresholdCurrency : Option String := none
  period : Period
  source : String

namespace TaxRuleService

def rules : RuleTable CountryTaxRule TaxKey where
  rows := Db.taxRules
  setRows rows d := { d with taxRules := rows }
  columns row := ⟨row.id, row.key, row.effectiveFrom, row.effectiveTo, row.version, row.status⟩
  setColumns c row :=
    { row with
      id := c.id
      country := c.key.country
      taxType := c.key.taxType
      hsCodePattern := c.key.hsCodePattern
      effectiveFrom := c.effectiveFrom
      effectiveTo := c.effectiveTo
      version := c.version
      status := c.status }
  rowLock := .taxRule
  versionLock key version := .taxVersion key.country key.taxType key.hsCodePattern version

/-- The row that is stored for a new tax rule. -/
def newRow (payload : TaxRuleCreate) (now : Instant) (rate : ℚ) (id version : ℕ) :
    CountryTaxRule where
  id := id
  country := payload.key.country
  taxType := payload.key.taxType
  hsCodePattern := payload.key.hsCodePattern
  rate := rate
  basisNumerator := payload.basisNumerator
  basisDenominator := payload.basisDenominator
  thresholdAmount := payload.thresholdAmount
  thresholdCurrency := payload.thresholdCurrency
  effectiveFrom := payload.period.effectiveFrom
  effectiveTo := payload.period.effectiveTo
  version := version
  status := .active
  source := Text.strip payload.source
  verifiedAt := now

def create (payload : TaxRuleCreate) (now : Instant) : Work CountryTaxRule :=
  if Text.strip payload.source = "" then raise (.paramInvalid "来源必须填写")
  else
    rules.create payload.key payload.period (.app 80004 "与已有税率版本的生效区间重叠")
      (percentToFraction payload.rate) (newRow payload now)

def retire (ruleId : ℕ) (today : Day) : Work CountryTaxRule := rules.retire ruleId today

/-- `list_effective` of the repository of tax rules. -/
def listEffective (d : Db) (country : String) (on : Day) : List CountryTaxRule :=
  d.taxRules.filter fun row =>
    row.country = country && effective row.status row.effectiveFrom row.effectiveTo on

end TaxRuleService

/-! ### Fees -/

/-- The columns of the unique constraint of the fees, without the version. -/
structure FeeKey where
  market : String
  channel : Channel
  feeCode : FeeCode
  label : String
  deriving DecidableEq

def LandedCostFee.key (row : LandedCostFee) : FeeKey :=
  ⟨row.market, row.channel, row.feeCode, row.label⟩

/-- A new fee, as its schema lets it through. -/
structure FeeCreate where
  key : FeeKey
  charge : Charge
  amount : ℚ
  currency : Option String := none
  volumetricDivisor : Option ℕ := none
  period : Period
  source : String

namespace LandedCostService

def fees : RuleTable LandedCostFee FeeKey where
  rows := Db.landedFees
  setRows rows d := { d with landedFees := rows }
  columns row := ⟨row.id, row.key, row.effectiveFrom, row.effectiveTo, row.version, row.status⟩
  setColumns c row :=
    { row with
      id := c.id
      market := c.key.market
      channel := c.key.channel
      feeCode := c.key.feeCode
      label := c.key.label
      effectiveFrom := c.effectiveFrom
      effectiveTo := c.effectiveTo
      version := c.version
      status := c.status }
  rowLock := .landedFee
  versionLock key version := .feeVersion key.market key.channel key.feeCode key.label version

/-- The amount that is stored: a share for a rate, or else the amount with six decimals. -/
def feeAmount (payload : FeeCreate) : Except ServiceError ℚ :=
  if payload.charge = .rate then percentToFraction payload.amount
  else .ok (Decimals.quantize 6 payload.amount)

/-- The row that is stored for a new fee. -/
def newFee (payload : FeeCreate) (now : Instant) (amount : ℚ) (id version : ℕ) :
    LandedCostFee where
  id := id
  market := payload.key.market
  channel := payload.key.channel
  feeCode := payload.key.feeCode
  label := payload.key.label
  charge := payload.charge
  amount := amount
  currency := payload.currency
  volumetricDivisor := payload.volumetricDivisor
  effectiveFrom := payload.period.effectiveFrom
  effectiveTo := payload.period.effectiveTo
  version := version
  status := .active
  source := payload.source
  verifiedAt := now

def createFee (payload : FeeCreate) (now : Instant) : Work LandedCostFee :=
  fees.create payload.key payload.period (.app 70004 "与已有费用版本的生效区间重叠")
    (feeAmount payload) (newFee payload now)

def retireFee (feeId : ℕ) (today : Day) : Work LandedCostFee := fees.retire feeId today

/-- `list_effective` of the repository of fees. -/
def listEffectiveFees (d : Db) (market : String) (on : Day) : List LandedCostFee :=
  d.landedFees.filter fun row =>
    row.market = market && effective row.status row.effectiveFrom row.effectiveTo on

end LandedCostService

end CrossPilot
