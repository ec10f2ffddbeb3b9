import CrossPilot.Lib.Text

/-!
# Exports of reports

An export is a row and a file. A worker reads the row, marks it as running, writes the file and the
result; a beat task deletes the file and marks the row as expired. Each of them is one transaction
under READ COMMITTED that writes the columns it has changed. The file is put and deleted at once. The
first UPDATE of a transaction waits for the lock of the row, which is kept until the commit.
-/

namespace CrossPilot.Report

/-! ### The row -/

inductive ExportStatus
  | pending | running | succeeded | failed | expired
  deriving DecidableEq

/-- `_FORWARD`. -/
def forward : ExportStatus → List ExportStatus
  | .pending => [.running]
  | .running => [.succeeded, .failed]
  | _ => []

/-- `next_status`. -/
def nextStatus (current target : ExportStatus) : Except String ExportStatus :=
  if target = .expired then
    if current = .expired then .error "导出任务已经过期" else .ok .expired
  else if target ∈ forward current then .ok target
  else .error "导出状态不能这样变更"

structure ReportExport where
  tenantId : ℕ
  id : ℕ
  fileFormat : String
  status : ExportStatus := .pending
  rowCount : Option ℕ := none
  objectKey : Option String := none
  error : Option String := none
  deriving DecidableEq

/-- `object_key`. -/
def ReportExport.key (row : ReportExport) : String :=
  toString row.tenantId ++ "/" ++ toString row.id ++ "." ++ row.fileFormat

/-- What is stored in a column after an UPDATE: the value, if it was changed since it was read. -/
def changed {α : Type} [DecidableEq α] (seen value stored : α) : α :=
  if value = seen then stored else value

/-- The row after an UPDATE. -/
def ReportExport.save (seen row stored : ReportExport) : ReportExport :=
  { stored with
    status := changed seen.status row.status stored.status
    rowCount := changed seen.rowCount row.rowCount stored.rowCount
    objectKey := changed seen.objectKey row.objectKey stored.objectKey
    error := changed seen.error row.error stored.error }

@[simp] lemma ReportExport.key_save (seen row stored : ReportExport) :
    (seen.save row stored).key = stored.key := rfl

/-! ### The tasks -/

/-- How `_write` ends: with a count, refused with a message, or with another error, which may come
after the file was stored. -/
inductive Writing
  | written (count : ℕ)
  | refused (message : String)
  | broken (stored : Bool)
  deriving DecidableEq

/-- Whether the file is stored by then. -/
def Writing.stores : Writing → Bool
  | .written _ => true
  | .refused _ => false
  | .broken stored => stored

inductive Task
  | execute (writing : Writing)
  | expire
  deriving DecidableEq

/-- Where a task is: before its SELECT, before the UPDATE that marks the row as running, before the
file is written or deleted, before its last UPDATE and commit, or at its end. `row` is what the SELECT
has read. -/
inductive Phase
  | ready
  | marking (row : ReportExport)
  | writing (row : ReportExport)
  | deleting (row : ReportExport) (key : String)
  | closing (row result : ReportExport)
  | done
  deriving DecidableEq

/-- The last UPDATE, with a status that `next_status` allows. -/
def closeAs (row result : ReportExport) (current target : ExportStatus) : Phase :=
  match nextStatus current target with
  | .ok status => .closing row { result with status }
  | .error _ => .done

/-- `execute` up to its first write. -/
def startExecute (row : ReportExport) : Phase :=
  match row.status with
  | .succeeded | .failed | .expired => .done
  | .running => .writing row
  | .pending =>
    match nextStatus row.status .running with
    | .ok _ => .marking row
    | .error _ => .done

/-- `execute` after `_write`, and `_fail`. -/
def finishExecute (row : ReportExport) : Writing → Phase
  | .written count =>
    closeAs row { row with rowCount := some count, objectKey := some row.key, error := none }
      .running .succeeded
  | .refused message =>
    closeAs row { row with error := some (Text.truncate 512 message), objectKey := none }
      .running .failed
  | .broken _ =>
    closeAs row { row with error := some "导出失败", objectKey := none } .running .failed

/-- `expire` up to its first write. -/
def startExpire (row : ReportExport) : Phase :=
  if row.status = .expired then .done
  else
    match row.objectKey with
    | some key => .deleting row key
    | none => closeAs row row row.status .expired

/-- `expire` after the file is deleted. -/
def finishExpire (row : ReportExport) : Phase :=
  closeAs row { row with objectKey := none } row.status .expired

/-! ### Interleavings -/

/-- The committed row, the task that has locked it, the stored files, and where each task is. -/
structure World (ι : Type) where
  row : ReportExport
  holder : Option ι
  files : List String
  phase : ι → Phase

variable {ι : Type} [DecidableEq ι]

namespace World

/-- Task `i` goes on to `p`. At its end it gives up the lock. -/
def enter (w : World ι) (i : ι) (p : Phase) : World ι :=
  { w with
    phase := Function.update w.phase i p
    holder := if p = .done ∧ w.holder = some i then none else w.holder }

/-- Nobody else has locked the row. -/
def Free (w : World ι) (i : ι) : Prop := w.holder = none ∨ w.holder = some i

instance (w : World ι) (i : ι) : Decidable (w.Free i) := inferInstanceAs (Decidable (_ ∨ _))

/-- One step of task `i`. A task that waits for the lock stays where it is. -/
def step (tasks : ι → Task) (w : World ι) (i : ι) : World ι :=
  match tasks i, w.phase i with
  | .execute _, .ready => w.enter i (startExecute w.row)
  | .expire, .ready => w.enter i (startExpire w.row)
  | _, .marking row =>
    if w.Free i then { w.enter i (.writing row) with holder := some i } else w
  | .execute writing, .writing row =>
    { w.enter i (finishExecute row writing) with
      files := if writing.stores then row.key :: w.files else w.files }
  | _, .deleting row key =>
    { w.enter i (finishExpire row) with files := w.files.filter (· ≠ key) }
  | _, .closing row result =>
    if w.Free i then { w with row := row.save result w.row }.enter i .done else w
  | _, _ => w

/-- A run: one task after the other takes a step. -/
def run (tasks : ι → Task) (w : World ι) (sched : List ι) : World ι :=
  sched.foldl (step tasks) w

/-- An export as it was created, before any task. -/
def start (row : ReportExport) : World ι where
  row
  holder := none
  files := []
  phase := fun _ => .ready

lemma run_append (tasks : ι → Task) (w : World ι) (sched sched' : List ι) :
    w.run tasks (sched ++ sched') = (w.run tasks sched).run tasks sched' :=
  List.foldl_append

end World

end CrossPilot.Report
