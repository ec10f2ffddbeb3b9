import CrossPilot.Lib.ThreeValued

/-!
# Bulk writes to tables with tenants

Reads get the condition on the tenant added to them, bulk updates and deletes do not: before such a
statement is run it is looked at, and one whose `WHERE` does not name the column of the tenant is
refused. What the `WHERE` says about that column is not looked at.
-/

namespace CrossPilot

namespace TenantFilter

def TENANT_COLUMN : String := "tenant_id"

/-! ### Conditions -/

/-- The types of the columns that conditions compare. -/
inductive Kind
  | integer | text
  deriving DecidableEq

abbrev Kind.Carrier : Kind → Type
  | .integer => ℤ
  | .text => String

instance : (k : Kind) → DecidableEq k.Carrier
  | .integer => inferInstanceAs (DecidableEq ℤ)
  | .text => inferInstanceAs (DecidableEq String)

/-- Texts are in the order of their code points. -/
def Kind.less : (k : Kind) → k.Carrier → k.Carrier → Bool
  | .integer, a, b => decide ((a : ℤ) < b)
  | .text, a, b => decide ((a : String) < b)

/-- A column and its type. -/
structure Column (k : Kind) where
  name : String
  deriving DecidableEq

/-- The tenant of a row, `TenantMixin.tenant_id`. -/
def tenantId : Column .integer := ⟨TENANT_COLUMN⟩

/-- A row of a table. The tenant is never null. -/
structure Row where
  cell {k : Kind} : Column k → Option k.Carrier
  tenant : ℤ
  tenant_known : cell tenantId = some tenant

/-- What is compared: two columns, or a column and a bound value. -/
inductive Operand (k : Kind)
  | column (c : Column k)
  | value (v : k.Carrier)

inductive Comparison
  | eq | ne | lt | le | gt | ge
  deriving DecidableEq

/-- The expression of a `WHERE`. -/
inductive Clause
  | compare {k : Kind} (op : Comparison) (left right : Operand k)
  | isNull {k : Kind} (operand : Operand k)
  | and (left right : Clause)
  | or (left right : Clause)
  | not (operand : Clause)

variable {k : Kind}

def Comparison.decide (a b : k.Carrier) : Comparison → Bool
  | .eq => a = b
  | .ne => a ≠ b
  | .lt => k.less a b
  | .le => !k.less b a
  | .gt => k.less b a
  | .ge => !k.less a b

def Operand.read (row : Row) : Operand k → Option k.Carrier
  | .column c => row.cell c
  | .value v => some v

/-- Comparisons with null are neither true nor false. -/
def Clause.truth (row : Row) : Clause → Truth
  | .compare op left right =>
    match left.read row, right.read row with
    | some a, some b => .ofBool (op.decide a b)
    | _, _ => .unknown
  | .isNull operand => .ofBool (operand.read row).isNone
  | .and left right => (left.truth row).and (right.truth row)
  | .or left right => (left.truth row).or (right.truth row)
  | .not operand => (operand.truth row).not

/-! ### Statements -/

/-- The table that a statement writes to (`statement.table`). -/
structure Target where
  name : String
  columns : List String
  deriving DecidableEq

/-- `Update` with what it makes of a row, or `Delete`. -/
inductive Dml
  | update (values : Row → Row)
  | delete

structure Statement where
  table : Target
  dml : Dml
  whereclause : Option Clause

namespace Statement

variable (s : Statement)

/-- The row is one of those that the statement is for. -/
def Selects (row : Row) : Prop := ∀ c ∈ s.whereclause, c.truth row = .holds

instance (row : Row) : Decidable (s.Selects row) :=
  inferInstanceAs (Decidable (∀ c ∈ s.whereclause, c.truth row = .holds))

/-- What becomes of a row. -/
def outcome (row : Row) : Option Row :=
  if s.Selects row then
    match s.dml with
    | .update values => some (values row)
    | .delete => none
  else some row

end Statement

/-! ### The guard -/

/-- `UnscopedTenantWriteError`, a `RuntimeError`. -/
structure UnscopedTenantWriteError where
  message : String
  deriving DecidableEq

def Operand.columns : Operand k → List String
  | .column c => [c.name]
  | .value _ => []

/-- The names of the columns that `visitors.iterate` comes across. -/
def Clause.columns : Clause → List String
  | .compare _ left right => left.columns ++ right.columns
  | .isNull operand => operand.columns
  | .and left right => left.columns ++ right.columns
  | .or left right => left.columns ++ right.columns
  | .not operand => operand.columns

def hasTenantPredicate : Option Clause → Bool
  | none => false
  | some clause => clause.columns.any (· = TENANT_COLUMN)

/-- `_guard_dml`. -/
def guardDml (s : Statement) : Except UnscopedTenantWriteError Unit :=
  if TENANT_COLUMN ∉ s.table.columns then .ok ()
  else if hasTenantPredicate s.whereclause then .ok ()
  else .error ⟨"拒绝对租户表执行无租户条件的批量写：" ++ s.table.name ++
    "。请在 WHERE 中显式带上 tenant_id，或改用 repository 层方法。"⟩

/-- The contents of the table after the statement, which is run if it is let through. -/
def execute (s : Statement) (rows : List Row) : List Row :=
  match guardDml s with
  | .ok () => rows.filterMap s.outcome
  | .error _ => rows

/-! ### Conditions that fix the tenant -/

/-- The two sides are the tenant of the row and `t`. -/
def comparesTenant (t : ℤ) : {k : Kind} → Operand k → Operand k → Bool
  | .integer, .column c, .value v => c = tenantId ∧ v = t
  | .integer, .value v, .column c => c = tenantId ∧ v = t
  | _, _, _ => false

/-- Which comparison with `t` fixes the tenant when it holds, and which one when it fails. -/
def Comparison.fixes : Comparison → Bool → Bool
  | .eq, true => true
  | .ne, false => true
  | _, _ => false

/-- Wherever the condition holds (`want`), or fails, the tenant is `t`: an equation with `t` does so,
and one side of what has to hold together, and both sides of an alternative. -/
def Clause.Fixes (t : ℤ) : Bool → Clause → Prop
  | want, .compare op left right => op.fixes want = true ∧ comparesTenant t left right = true
  | _, .isNull _ => False
  | true, .and left right => left.Fixes t true ∨ right.Fixes t true
  | false, .and left right => left.Fixes t false ∧ right.Fixes t false
  | true, .or left right => left.Fixes t true ∧ right.Fixes t true
  | false, .or left right => left.Fixes t false ∨ right.Fixes t false
  | want, .not operand => operand.Fixes t !want

variable {t : ℤ} {row : Row} {c : Clause} {s : Statement}

/-- A comparison that fixes the tenant. -/
lemma tenant_of_compare {want : Bool} {op : Comparison} {left right : Operand k}
    (hop : op.fixes want = true) (hsides : comparesTenant t left right = true)
    (h : (Clause.compare op left right).truth row = .ofBool want) : row.tenant = t := by
  have hknown := row.tenant_known
  have hequal : ∀ a b : Kind.integer.Carrier,
      Truth.ofBool (op.decide a b) = .ofBool want → a = b := by
    intro a b hab
    cases op <;> cases want <;> simp only [Comparison.fixes, Bool.false_eq_true] at hop
    · exact of_decide_eq_true (Truth.ofBool_eq_holds.1 hab)
    · simpa [Comparison.decide] using Truth.ofBool_eq_fails.1 hab
  match k, left, right with
  | .integer, .column column, .value v =>
    obtain ⟨rfl, rfl⟩ : column = tenantId ∧ v = t := by simpa [comparesTenant] using hsides
    simp only [Clause.truth, Operand.read, hknown] at h
    exact hequal _ _ h
  | .integer, .value v, .column column =>
    obtain ⟨rfl, rfl⟩ : column = tenantId ∧ v = t := by simpa [comparesTenant] using hsides
    simp only [Clause.truth, Operand.read, hknown] at h
    exact (hequal _ _ h).symm
  | .integer, .column _, .column _ => simp [comparesTenant] at hsides
  | .integer, .value _, .value _ => simp [comparesTenant] at hsides
  | .text, _, _ => simp [comparesTenant] at hsides

/-- A row for which the condition comes out as wanted is one of the tenant. -/
lemma Clause.Fixes.tenant_eq : ∀ {c : Clause} {want : Bool}, c.Fixes t want →
    c.truth row = .ofBool want → row.tenant = t := by
  intro c
  induction c with
  | compare op left right =>
    intro want hfixes h
    exact tenant_of_compare hfixes.1 hfixes.2 h
  | isNull operand => intro want hfixes; cases want <;> exact hfixes.elim
  | and left right ihl ihr =>
    intro want hfixes h
    cases want with
    | true =>
      have hboth : left.truth row = .holds ∧ right.truth row = .holds := Truth.and_eq_holds.1 h
      rcases hfixes with hleft | hright
      · exact ihl hleft hboth.1
      · exact ihr hright hboth.2
    | false =>
      have hone : left.truth row = .fails ∨ right.truth row = .fails := Truth.and_eq_fails.1 h
      rcases hone with hleft | hright
      · exact ihl hfixes.1 hleft
      · exact ihr hfixes.2 hright
  | or left right ihl ihr =>
    intro want hfixes h
    cases want with
    | true =>
      have hone : left.truth row = .holds ∨ right.truth row = .holds := Truth.or_eq_holds.1 h
      rcases hone with hleft | hright
      · exact ihl hfixes.1 hleft
      · exact ihr hfixes.2 hright
    | false =>
      have hboth : left.truth row = .fails ∧ right.truth row = .fails := Truth.or_eq_fails.1 h
      rcases hfixes with hleft | hright
      · exact ihl hleft hboth.1
      · exact ihr hright hboth.2
  | not operand ih =>
    intro want hfixes h
    cases want with
    | true => exact ih hfixes (Truth.not_eq_holds.1 h)
    | false => exact ih hfixes (Truth.not_eq_fails.1 h)

/-- What fixes the tenant names its column. -/
lemma Clause.Fixes.mem_columns : ∀ {c : Clause} {want : Bool}, c.Fixes t want →
    TENANT_COLUMN ∈ c.columns := by
  intro c
  induction c with
  | compare op left right =>
    intro want hfixes
    have hsides : comparesTenant t left right = true := hfixes.2
    rename_i k
    match k, left, right with
    | .integer, .column column, .value v =>
      have hcolumn : column = tenantId ∧ v = t := by simpa [comparesTenant] using hsides
      simp [Clause.columns, Operand.columns, hcolumn.1, tenantId]
    | .integer, .value v, .column column =>
      have hcolumn : column = tenantId ∧ v = t := by simpa [comparesTenant] using hsides
      simp [Clause.columns, Operand.columns, hcolumn.1, tenantId]
    | .integer, .column _, .column _ => simp [comparesTenant] at hsides
    | .integer, .value _, .value _ => simp [comparesTenant] at hsides
    | .text, _, _ => simp [comparesTenant] at hsides
  | isNull operand => intro want hfixes; cases want <;> exact hfixes.elim
  | and left right ihl ihr =>
    intro want hfixes
    simp only [Clause.columns, List.mem_append]
    cases want with
    | true => exact hfixes.imp (ihl ·) (ihr ·)
    | false => exact Or.inl (ihl hfixes.1)
  | or left right ihl ihr =>
    intro want hfixes
    simp only [Clause.columns, List.mem_append]
    cases want with
    | true => exact Or.inl (ihl hfixes.1)
    | false => exact hfixes.imp (ihl ·) (ihr ·)
  | not operand ih => intro want hfixes; cases want <;> exact ih hfixes

/-! ### What is let through -/

/-- The `WHERE` names the column of the tenant. -/
def Statement.NamesTenant (s : Statement) : Prop :=
  ∃ c ∈ s.whereclause, TENANT_COLUMN ∈ c.columns

lemma hasTenantPredicate_iff : hasTenantPredicate s.whereclause = true ↔ s.NamesTenant := by
  unfold Statement.NamesTenant
  cases s.whereclause <;> simp [hasTenantPredicate]

/-- The guard lets through what names the column. -/
lemma guardDml_eq_ok_iff (htable : TENANT_COLUMN ∈ s.table.columns) :
    guardDml s = .ok () ↔ s.NamesTenant := by
  rw [← hasTenantPredicate_iff, guardDml, if_neg (not_not.2 htable)]
  split_ifs with h <;> simp [h]

/-- Only rows for which the condition holds are touched. -/
lemma selects_of_outcome_ne (h : s.outcome row ≠ some row) : s.Selects row := by
  by_contra hnot
  exact h (if_neg hnot)

/-- A bulk write to a table with tenants is run if its condition names the column of the tenant, and
changes nothing otherwise. A condition that fixes the tenant does name it, and the rows of other
tenants stay as they are. -/
theorem guarded_write (s : Statement) (t : ℤ) (rows : List Row)
    (htable : TENANT_COLUMN ∈ s.table.columns) :
    (guardDml s = .ok () ↔ s.NamesTenant) ∧
    (guardDml s ≠ .ok () → execute s rows = rows) ∧
    (∀ c ∈ s.whereclause, c.Fixes t true → guardDml s = .ok () ∧
      execute s rows = rows.filterMap s.outcome ∧
      ∀ row ∈ rows, s.outcome row ≠ some row → row.tenant = t) := by
  refine ⟨guardDml_eq_ok_iff htable, fun hrefused => ?_, fun c hc hfixes => ?_⟩
  · unfold execute
    split
    · contradiction
    · rfl
  · have hpasses : guardDml s = .ok () := (guardDml_eq_ok_iff htable).2 ⟨c, hc, hfixes.mem_columns⟩
    refine ⟨hpasses, by simp [execute, hpasses], fun row _ hchanged => ?_⟩
    exact hfixes.tenant_eq (selects_of_outcome_ne hchanged c hc)

/-- The table `demo_ticket` of the tests. -/
def demoTicket : Target := ⟨"demo_ticket", ["id", "tenant_id", "title"]⟩

def ticket (tenant : ℤ) (title : String) : Row where
  cell {k} c :=
    match k, c with
    | .integer, ⟨"tenant_id"⟩ => some tenant
    | .text, ⟨"title"⟩ => some title
    | _, _ => none
  tenant := tenant
  tenant_known := rfl

/-- `tenant_id == t`. -/
def isTenant (t : ℤ) : Clause := .compare .eq (.column tenantId) (.value (k := .integer) t)

/-- `title == text`. -/
def isTitled (text : String) : Clause :=
  .compare .eq (.column ⟨"title"⟩) (.value (k := .text) text)

/-- The deletion of all tickets of a tenant. -/
def purge : Statement := ⟨demoTicket, .delete, some (isTenant 1)⟩

theorem guarded_write_scoped :
    guardDml purge = .ok () ∧
      execute purge [ticket 1 "A-1", ticket 2 "B-1"] =
        [ticket 1 "A-1", ticket 2 "B-1"].filterMap purge.outcome ∧
      ∀ row ∈ [ticket 1 "A-1", ticket 2 "B-1"], purge.outcome row ≠ some row → row.tenant = 1 :=
  (guarded_write purge 1 [ticket 1 "A-1", ticket 2 "B-1"] (by decide)).2.2 (isTenant 1) rfl
    ⟨rfl, rfl⟩

/-- The title is enough for `tenant_id == 1 OR title == 'B-1'`, whatever the tenant. -/
theorem alternative_reaches_others : ¬ ∀ (t : ℤ) (s : Statement) (rows : List Row),
    TENANT_COLUMN ∈ s.table.columns → guardDml s = .ok () →
      ∀ row ∈ rows, s.outcome row ≠ some row → row.tenant = t := by
  intro h
  have hselects : Statement.Selects ⟨demoTicket, .delete, some ((isTenant 1).or (isTitled "B-1"))⟩
      (ticket 2 "B-1") := by
    rintro c ⟨⟩
    rfl
  have hsame : (2 : ℤ) = 1 := h 1 ⟨demoTicket, .delete, some ((isTenant 1).or (isTitled "B-1"))⟩
    [ticket 2 "B-1"] (by decide) rfl _ (List.mem_singleton_self _)
    (by simp [Statement.outcome, if_pos hselects])
  exact absurd hsame (by decide)

end TenantFilter

end CrossPilot
