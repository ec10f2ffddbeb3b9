import CrossPilot.Finance.ReportExport

/-!
# An export that has expired stays so

As long as every task that writes the row finds the status it has read, the status of an export only
goes forward, and the file of an expired export is gone. The invariant is about the task that has
locked the row, and about what the others have read.
-/

namespace CrossPilot.Report

/-- The states of an export go from pending over its outcome to expired. -/
def After (s s' : ExportStatus) : Prop :=
  s = s' ∨ s' = .expired ∨ s = .pending ∧ (s' = .succeeded ∨ s' = .failed)

instance (s s' : ExportStatus) : Decidable (After s s') := inferInstanceAs (Decidable (_ ∨ _))

lemma After.refl (s : ExportStatus) : After s s := .inl rfl

lemma After.trans {s s' s'' : ExportStatus} (h : After s s') (h' : After s' s'') : After s s'' := by
  revert h h'
  cases s <;> cases s' <;> cases s'' <;> decide

lemma After.eq_expired {s : ExportStatus} (h : After .expired s) : s = .expired := by
  revert h
  cases s <;> decide

lemma After.ne_succeeded {s : ExportStatus} (h : After .failed s) : s ≠ .succeeded := by
  revert h
  cases s <;> decide

variable {ι : Type} [DecidableEq ι]

/-! ### The condition -/

/-- The next step of task `i` leaves no file without its key, and if it is the first UPDATE of the
task, it finds the status the task has read, or an expiry finds the export expired. -/
def FindsAsRead (tasks : ι → Task) (w : World ι) (i : ι) : Prop :=
  match tasks i, w.phase i with
  | .execute _, .marking row => w.Free i → w.row.status = row.status
  | .execute writing, .writing _ => writing ≠ .broken true
  | .expire, .closing row _ =>
    w.Free i → w.row.status = row.status ∨ w.row.status = .expired
  | _, _ => True

/-- Every step of a run is such a step. -/
def Undisturbed (tasks : ι → Task) (w : World ι) : List ι → Prop
  | [] => True
  | i :: rest => FindsAsRead tasks w i ∧ Undisturbed tasks (w.step tasks i) rest

/-! ### The invariant -/

/-- A row whose status and file key belong together. -/
structure Coherent (key : String) (row : ReportExport) : Prop where
  key_eq : row.key = key
  not_running : row.status ≠ .running
  has_key : row.status = .succeeded → row.objectKey = some key
  no_key : row.status ≠ .succeeded → row.objectKey = none

/-- What is known of a task, by where it is. -/
def Fits (key : String) (w : World ι) (i : ι) : Task → Phase → Prop
  | _, .ready => True
  | _, .done => True
  | .execute _, .marking row => Coherent key row ∧ row.status = .pending
  | .execute _, .writing row =>
    w.holder = some i ∧ w.row.status = .pending ∧ Coherent key row ∧ row.status = .pending ∧
      key ∉ w.files
  | .execute _, .closing row result =>
    w.holder = some i ∧ w.row.status = .pending ∧ Coherent key row ∧ row.status = .pending ∧
      (result.status = .succeeded ∧ result.objectKey = some key ∨
        result.status = .failed ∧ result.objectKey = none ∧ key ∉ w.files)
  | .expire, .deleting row k =>
    Coherent key row ∧ k = key ∧ row.status ≠ .expired ∧ After row.status w.row.status
  | .expire, .closing row result =>
    Coherent key row ∧ row.status ≠ .expired ∧ After row.status w.row.status ∧
      result.status = .expired ∧ result.objectKey = none ∧
      (row.status = .succeeded → key ∉ w.files)
  | _, _ => False

/-- A phase in which an execution has locked the row. -/
def Phase.Locking : Phase → Prop
  | .writing _ => True
  | .closing _ _ => True
  | _ => False

structure Inv (tasks : ι → Task) (key : String) (w : World ι) : Prop where
  coherent : Coherent key w.row
  file : key ∈ w.files → w.row.status = .succeeded ∨ w.holder ≠ none
  holds : ∀ i, w.holder = some i → tasks i ≠ .expire ∧ (w.phase i).Locking
  fits : ∀ i, Fits key w i (tasks i) (w.phase i)

/-! ### One step -/

omit [DecidableEq ι] in
/-- What is known of a task stays true while others take steps: its lock keeps the row, statuses only
go forward, and files are only put while the export is pending. -/
lemma Fits.mono {key : String} {w w' : World ι} {j : ι} {t : Task} {p : Phase} (h : Fits key w j t p)
    (hlock : w.holder = some j → w'.holder = some j ∧ w'.row = w.row)
    (hrow : After w.row.status w'.row.status)
    (hfiles : key ∈ w'.files → key ∈ w.files ∨ w.row.status = .pending ∧ w.holder ≠ some j) :
    Fits key w' j t p := by
  cases t with
  | execute wr =>
    cases p with
    | writing row =>
      obtain ⟨hh, hr, hc, hs, hgone⟩ := h
      obtain ⟨hh', hr'⟩ := hlock hh
      rw [← hr'] at hr
      exact ⟨hh', hr, hc, hs, fun hmem => (hfiles hmem).elim hgone fun hp => hp.2 hh⟩
    | closing row result =>
      obtain ⟨hh, hr, hc, hs, hresult⟩ := h
      obtain ⟨hh', hr'⟩ := hlock hh
      rw [← hr'] at hr
      refine ⟨hh', hr, hc, hs, hresult.imp id ?_⟩
      rintro ⟨hfailed, hkey, hgone⟩
      exact ⟨hfailed, hkey, fun hmem => (hfiles hmem).elim hgone fun hp => hp.2 hh⟩
    | _ => exact h
  | expire =>
    cases p with
    | deleting row k =>
      obtain ⟨hc, hk, hne, hafter⟩ := h
      exact ⟨hc, hk, hne, hafter.trans hrow⟩
    | closing row result =>
      obtain ⟨hc, hne, hafter, hstatus, hkey, hgone⟩ := h
      refine ⟨hc, hne, hafter.trans hrow, hstatus, hkey, ?_⟩
      intro hs hmem
      rcases hfiles hmem with hmem | hp
      · exact hgone hs hmem
      · rw [hs, hp.1] at hafter
        revert hafter
        decide
    | _ => exact h

section

variable {tasks : ι → Task} {key : String} {w w' : World ι} {i : ι}

/-- The invariant after a step of task `i`: what has to be shown is about `i`, the row and the
files. -/
lemma Inv.of_step (h : Inv tasks key w) (hphase : ∀ j, j ≠ i → w'.phase j = w.phase j)
    (hcoherent : Coherent key w'.row)
    (hfile : key ∈ w'.files → w'.row.status = .succeeded ∨ w'.holder ≠ none)
    (hholder : ∀ j, j ≠ i → w'.holder = some j → w.holder = some j)
    (hholds : w'.holder = some i → tasks i ≠ .expire ∧ (w'.phase i).Locking)
    (hlock : ∀ j, j ≠ i → w.holder = some j → w'.holder = some j ∧ w'.row = w.row)
    (hrow : After w.row.status w'.row.status)
    (hfiles : ∀ j, j ≠ i → key ∈ w'.files →
      key ∈ w.files ∨ w.row.status = .pending ∧ w.holder ≠ some j)
    (hfits : Fits key w' i (tasks i) (w'.phase i)) : Inv tasks key w' where
  coherent := hcoherent
  file := hfile
  holds := by
    intro j hj
    by_cases hji : j = i
    · subst hji
      exact hholds hj
    · rw [hphase j hji]
      exact h.holds j (hholder j hji hj)
  fits := by
    intro j
    by_cases hji : j = i
    · subst hji
      exact hfits
    · rw [hphase j hji]
      exact (h.fits j).mono (hlock j hji) hrow (hfiles j hji)

lemma World.enter_phase_of_ne {p : Phase} {j : ι} (h : j ≠ i) :
    (w.enter i p).phase j = w.phase j := by
  simp [World.enter, h]

@[simp] lemma World.enter_phase_self {p : Phase} : (w.enter i p).phase i = p := by
  simp [World.enter]

@[simp] lemma World.enter_row {p : Phase} : (w.enter i p).row = w.row := rfl

@[simp] lemma World.enter_files {p : Phase} : (w.enter i p).files = w.files := rfl

lemma World.enter_holder_of_ne {p : Phase} (h : w.holder ≠ some i) :
    (w.enter i p).holder = w.holder := by
  simp [World.enter, h]

/-- A task without the lock goes on and changes nothing but files it may delete. -/
lemma Inv.enter (h : Inv tasks key w) {p : Phase} (hi : w.holder ≠ some i) (files : List String)
    (hfiles : key ∈ files → key ∈ w.files)
    (hfits : Fits key { w.enter i p with files } i (tasks i) p) :
    Inv tasks key { w.enter i p with files } := by
  apply h.of_step (i := i)
  · intro j hj
    exact World.enter_phase_of_ne hj
  · exact h.coherent
  · intro hmem
    dsimp only
    rw [World.enter_holder_of_ne hi]
    exact h.file (hfiles hmem)
  · intro j _ hj
    dsimp only at hj
    rwa [World.enter_holder_of_ne hi] at hj
  · intro hj
    dsimp only at hj
    rw [World.enter_holder_of_ne hi] at hj
    exact absurd hj hi
  · intro j _ hj
    dsimp only
    rw [World.enter_holder_of_ne hi]
    exact ⟨hj, rfl⟩
  · exact After.refl _
  · intro _ _ hmem
    exact .inl (hfiles hmem)
  · simpa using hfits

/-- What a task knows after its SELECT. -/
lemma fits_start (h : Inv tasks key w) (wr : Writing) :
    Fits key (w.enter i (startExecute w.row)) i (.execute wr) (startExecute w.row) ∧
    Fits key (w.enter i (startExpire w.row)) i .expire (startExpire w.row) := by
  have hc := h.coherent
  constructor
  · cases hs : w.row.status with
    | running => exact absurd hs hc.not_running
    | pending => simpa [startExecute, hs, nextStatus, forward] using ⟨hc, hs⟩
    | _ => simp [startExecute, hs, Fits]
  · by_cases hs : w.row.status = .expired
    · simp [startExpire, hs, Fits]
    · by_cases hsucc : w.row.status = .succeeded
      · have hkey := hc.has_key hsucc
        simp only [startExpire, hs, if_false, hkey]
        exact ⟨hc, rfl, hs, After.refl _⟩
      · have hkey := hc.no_key hsucc
        simp only [startExpire, hs, if_false, hkey, closeAs, nextStatus, if_true]
        exact ⟨hc, hs, After.refl _, rfl, rfl, fun hs => absurd hs hsucc⟩

omit [DecidableEq ι] in
lemma Inv.holder_ne (h : Inv tasks key w) (hp : ¬ (w.phase i).Locking) : w.holder ≠ some i :=
  fun hi => hp (h.holds i hi).2

omit [DecidableEq ι] in
lemma Inv.holder_ne_of_expire (h : Inv tasks key w) (ht : tasks i = .expire) : w.holder ≠ some i :=
  fun hi => (h.holds i hi).1 ht

/-- An execution takes the lock, on a pending row. -/
lemma Inv.mark (h : Inv tasks key w) {wr : Writing} {row : ReportExport} (ht : tasks i = .execute wr)
    (hp : w.phase i = .marking row) (hfree : w.Free i) (hs : w.row.status = row.status) :
    Inv tasks key { w.enter i (.writing row) with holder := some i } := by
  have hfits := h.fits i
  rw [ht, hp] at hfits
  obtain ⟨hc, hpending⟩ := hfits
  have hnone : w.holder = none := hfree.resolve_right (h.holder_ne (by rw [hp]; exact id))
  apply h.of_step (i := i)
  · intro j hj
    exact World.enter_phase_of_ne hj
  · exact h.coherent
  · intro _
    exact .inr (by simp)
  · intro j hj hholder
    exact absurd (Option.some_inj.mp hholder).symm hj
  · intro _
    rw [ht]
    exact ⟨by simp, by simp [Phase.Locking]⟩
  · intro j _ hholder
    rw [hnone] at hholder
    cases hholder
  · exact After.refl _
  · exact fun _ _ => .inl
  · rw [ht]
    simp only [World.enter_phase_self]
    refine ⟨rfl, hs.trans hpending, hc, hpending, ?_⟩
    intro hmem
    rcases h.file hmem with hsucc | hheld
    · rw [hs, hpending] at hsucc
      cases hsucc
    · exact hheld hnone

/-- An execution stores the file, or does not. -/
lemma Inv.store (h : Inv tasks key w) {wr : Writing} {row : ReportExport} (ht : tasks i = .execute wr)
    (hp : w.phase i = .writing row) (hwr : wr ≠ .broken true) :
    Inv tasks key { w.enter i (finishExecute row wr) with
      files := if wr.stores then row.key :: w.files else w.files } := by
  have hfits := h.fits i
  rw [ht, hp] at hfits
  obtain ⟨hholder, hrow, hc, hpending, hgone⟩ := hfits
  obtain ⟨result, hfinish, hresult⟩ : ∃ result, finishExecute row wr = .closing row result ∧
      (result.status = .succeeded ∧ result.objectKey = some key ∨
        result.status = .failed ∧ result.objectKey = none ∧
          key ∉ if wr.stores then row.key :: w.files else w.files) := by
    cases wr with
    | written count => exact ⟨_, rfl, .inl ⟨rfl, congrArg some hc.key_eq⟩⟩
    | refused message => exact ⟨_, rfl, .inr ⟨rfl, rfl, hgone⟩⟩
    | broken stored =>
      cases stored with
      | true => exact absurd rfl hwr
      | false => exact ⟨_, rfl, .inr ⟨rfl, rfl, hgone⟩⟩
  have hsame : (w.enter i (finishExecute row wr)).holder = w.holder := by
    simp [World.enter, hfinish]
  apply h.of_step (i := i)
  · intro j hj
    exact World.enter_phase_of_ne hj
  · exact h.coherent
  · intro _
    exact .inr (by simp [hsame, hholder])
  · intro j _ hj
    exact hsame.symm.trans hj
  · intro _
    rw [ht]
    exact ⟨by simp, by simp [hfinish, Phase.Locking]⟩
  · intro j _ hj
    exact ⟨hsame.trans hj, rfl⟩
  · exact After.refl _
  · intro j hj _
    exact .inr ⟨hrow, fun hheld => hj (Option.some_inj.mp (hheld.symm.trans hholder))⟩
  · rw [ht]
    simp only [World.enter_phase_self, hfinish]
    exact ⟨by rw [← hfinish]; exact hsame.trans hholder, hrow, hc, hpending, hresult⟩

@[simp] lemma changed_self {α : Type} [DecidableEq α] (seen stored : α) :
    changed seen seen stored = stored := by
  simp [changed]

/-- A commit gives up the lock, which nobody else holds. -/
lemma Inv.commit (h : Inv tasks key w) {row : ReportExport} (hfree : w.Free i)
    (hcoherent : Coherent key row) (hfile : key ∈ w.files → row.status = .succeeded)
    (hrow : After w.row.status row.status) :
    Inv tasks key ({ w with row }.enter i .done) := by
  have hnone : ({ w with row }.enter i .done).holder = none := by
    rcases hfree with hfree | hfree
    · simp [World.enter, hfree]
    · simp [World.enter, hfree]
  apply h.of_step (i := i)
  · intro j hj
    exact World.enter_phase_of_ne hj
  · exact hcoherent
  · intro hmem
    exact .inl (hfile hmem)
  · intro j _ hj
    rw [hnone] at hj
    cases hj
  · intro hj
    rw [hnone] at hj
    cases hj
  · intro j hj hholder
    rcases hfree with hfree | hfree
    · rw [hfree] at hholder
      cases hholder
    · exact absurd (Option.some_inj.mp (hfree.symm.trans hholder)).symm hj
  · exact hrow
  · exact fun _ _ => .inl
  · simp only [World.enter_phase_self, Fits]

/-- The commit of an execution. -/
lemma Inv.commit_execute (h : Inv tasks key w) {wr : Writing} {row result : ReportExport}
    (ht : tasks i = .execute wr) (hp : w.phase i = .closing row result) :
    Inv tasks key ({ w with row := row.save result w.row }.enter i .done) ∧
      After w.row.status (row.save result w.row).status := by
  have hfits := h.fits i
  rw [ht, hp] at hfits
  obtain ⟨hholder, hrow, hc, hpending, hresult⟩ := hfits
  have hnone : row.objectKey = none := hc.no_key (by simp [hpending])
  have hstored : w.row.objectKey = none := h.coherent.no_key (by simp [hrow])
  rcases hresult with ⟨hstatus, hkey⟩ | ⟨hstatus, hkey, hgone⟩
  · have hsaved : (row.save result w.row).status = .succeeded := by
      simp [ReportExport.save, changed, hstatus, hpending]
    have hafter : After w.row.status (row.save result w.row).status := by
      rw [hrow, hsaved]
      decide
    refine ⟨h.commit (.inr hholder) ⟨h.coherent.key_eq, ?_, ?_, ?_⟩ (fun _ => hsaved) hafter, hafter⟩
    · simp [hsaved]
    · intro _
      simp [ReportExport.save, changed, hkey, hnone]
    · intro hne
      exact absurd hsaved hne
  · have hsaved : (row.save result w.row).status = .failed := by
      simp [ReportExport.save, changed, hstatus, hpending]
    have hafter : After w.row.status (row.save result w.row).status := by
      rw [hrow, hsaved]
      decide
    refine ⟨h.commit (.inr hholder) ⟨h.coherent.key_eq, ?_, ?_, ?_⟩ (fun hmem => absurd hmem hgone)
      hafter, hafter⟩
    · simp [hsaved]
    · intro hsucc
      simp [hsaved] at hsucc
    · intro _
      simp [ReportExport.save, changed, hkey, hnone, hstored]

/-- The commit of an expiry. -/
lemma Inv.commit_expire (h : Inv tasks key w) {row result : ReportExport}
    (ht : tasks i = .expire) (hp : w.phase i = .closing row result) (hfree : w.Free i)
    (hs : w.row.status = row.status ∨ w.row.status = .expired) :
    Inv tasks key ({ w with row := row.save result w.row }.enter i .done) ∧
      After w.row.status (row.save result w.row).status := by
  have hfits := h.fits i
  rw [ht, hp] at hfits
  obtain ⟨hc, hne, hread, hstatus, hkey, hgone⟩ := hfits
  have hnone : w.holder = none := hfree.resolve_right (h.holder_ne_of_expire ht)
  have hsaved : (row.save result w.row).status = .expired := by
    simp [ReportExport.save, changed, hstatus, hne.symm]
  have hafter : After w.row.status (row.save result w.row).status := .inr (.inl hsaved)
  refine ⟨h.commit hfree ⟨h.coherent.key_eq, ?_, ?_, ?_⟩ ?_ hafter, hafter⟩
  · simp [hsaved]
  · intro hsucc
    simp [hsaved] at hsucc
  · intro _
    by_cases hsucc : w.row.status = .succeeded
    · have hsucc' : row.status = .succeeded := by
        rcases hs with hs | hs
        · rw [← hs, hsucc]
        · rw [hs] at hsucc
          cases hsucc
      simp [ReportExport.save, changed, hkey, hc.has_key hsucc']
    · have := h.coherent.no_key hsucc
      simp [ReportExport.save, changed, hkey, this]
  · intro hmem
    rcases h.file hmem with hsucc | hheld
    · rcases hs with hs | hs
      · exact absurd hmem (hgone (hs.symm.trans hsucc))
      · rw [hs] at hsucc
        cases hsucc
    · exact absurd hnone hheld

/-- A file is deleted. -/
lemma Inv.delete (h : Inv tasks key w) {row : ReportExport} {k : String} (ht : tasks i = .expire)
    (hp : w.phase i = .deleting row k) :
    Inv tasks key { w.enter i (finishExpire row) with files := w.files.filter (· ≠ k) } := by
  have hfits := h.fits i
  rw [ht, hp] at hfits
  obtain ⟨hc, rfl, hne, hread⟩ := hfits
  apply h.enter (h.holder_ne_of_expire ht)
  · intro hmem
    exact List.mem_of_mem_filter hmem
  · rw [ht]
    simp only [finishExpire, closeAs, nextStatus, if_true, hne, if_false]
    exact ⟨hc, hne, hread, rfl, rfl, fun _ => by simp⟩

/-- A step keeps the invariant, and the status only goes forward. -/
theorem Inv.step (h : Inv tasks key w) (hf : FindsAsRead tasks w i) :
    Inv tasks key (w.step tasks i) ∧ After w.row.status (w.step tasks i).row.status := by
  have hfits := h.fits i
  have hstay := And.intro h (After.refl w.row.status)
  cases hp : w.phase i with
  | ready =>
    have hi := h.holder_ne (i := i) (by rw [hp]; exact id)
    cases ht : tasks i with
    | execute wr =>
      simp only [World.step, ht, hp]
      exact ⟨h.enter hi w.files id (by rw [ht]; exact (fits_start h wr).1), After.refl _⟩
    | expire =>
      simp only [World.step, ht, hp]
      exact ⟨h.enter hi w.files id (by rw [ht]; exact (fits_start h (.broken false)).2),
        After.refl _⟩
  | marking row =>
    cases ht : tasks i with
    | execute wr =>
      simp only [FindsAsRead, ht, hp] at hf
      simp only [World.step, ht, hp]
      split_ifs with hfree
      · exact ⟨h.mark ht hp hfree (hf hfree), After.refl _⟩
      · exact hstay
    | expire =>
      rw [ht, hp] at hfits
      exact hfits.elim
  | writing row =>
    cases ht : tasks i with
    | execute wr =>
      simp only [FindsAsRead, ht, hp] at hf
      simp only [World.step, ht, hp]
      exact ⟨h.store ht hp hf, After.refl _⟩
    | expire =>
      rw [ht, hp] at hfits
      exact hfits.elim
  | deleting row k =>
    cases ht : tasks i with
    | execute wr =>
      rw [ht, hp] at hfits
      exact hfits.elim
    | expire =>
      simp only [World.step, ht, hp]
      exact ⟨h.delete ht hp, After.refl _⟩
  | closing row result =>
    cases ht : tasks i with
    | execute wr =>
      simp only [World.step, ht, hp]
      split_ifs with hfree
      · exact h.commit_execute ht hp
      · exact hstay
    | expire =>
      simp only [FindsAsRead, ht, hp] at hf
      simp only [World.step, ht, hp]
      split_ifs with hfree
      · exact h.commit_expire ht hp hfree (hf hfree)
      · exact hstay
  | done =>
    cases ht : tasks i with
    | execute wr => simpa only [World.step, ht, hp] using hstay
    | expire => simpa only [World.step, ht, hp] using hstay

/-- So does a run. -/
theorem Inv.run (h : Inv tasks key w) {sched : List ι} (hu : Undisturbed tasks w sched) :
    Inv tasks key (w.run tasks sched) ∧ After w.row.status (w.run tasks sched).row.status := by
  induction sched generalizing w with
  | nil => exact ⟨h, After.refl _⟩
  | cons i rest ih =>
    obtain ⟨hf, hrest⟩ := hu
    obtain ⟨hstep, hafter⟩ := h.step hf
    obtain ⟨hrun, hafter'⟩ := ih hstep hrest
    exact ⟨hrun, hafter.trans hafter'⟩

lemma Undisturbed.split {sched sched' : List ι} (hu : Undisturbed tasks w (sched ++ sched')) :
    Undisturbed tasks w sched ∧ Undisturbed tasks (w.run tasks sched) sched' := by
  induction sched generalizing w with
  | nil => exact ⟨trivial, hu⟩
  | cons i rest ih =>
    obtain ⟨hf, hrest⟩ := hu
    obtain ⟨h, h'⟩ := ih hrest
    exact ⟨⟨hf, h⟩, h'⟩

omit [DecidableEq ι] in
lemma Inv.start {row : ReportExport} (hpending : row.status = .pending)
    (hkey : row.objectKey = none) : Inv tasks row.key (World.start row) where
  coherent := by
    refine ⟨rfl, ?_, ?_, fun _ => hkey⟩
    · simp [World.start, hpending]
    · simp [World.start, hpending]
  file := by simp [World.start]
  holds := by simp [World.start]
  fits := fun i => by cases tasks i <;> trivial

end

/-! ### The status and the file -/

/-- No task is between its SELECT and its end. -/
def World.Quiet (w : World ι) : Prop := ∀ i, w.phase i = .ready ∨ w.phase i = .done

/-- In a run whose tasks find what they have read, an expired export stays expired, a failed one never
succeeds, and once nobody is at work the file of an expired export is gone. -/
theorem expired_for_good (tasks : ι → Task) (row : ReportExport) (hpending : row.status = .pending)
    (hkey : row.objectKey = none) (sched sched' : List ι)
    (hu : Undisturbed tasks (World.start row) (sched ++ sched')) :
    let w := (World.start row).run tasks sched
    let w' := (World.start row).run tasks (sched ++ sched')
    (w.row.status = .expired → w'.row.status = .expired) ∧
    (w.row.status = .failed → w'.row.status ≠ .succeeded) ∧
    (w.row.status = .expired → w.Quiet → row.key ∉ w.files) := by
  intro w w'
  obtain ⟨hbefore, hafter⟩ := hu.split
  obtain ⟨hinv, -⟩ := (Inv.start hpending hkey).run hbefore
  obtain ⟨-, hforward⟩ := hinv.run hafter
  rw [← World.run_append] at hforward
  refine ⟨?_, ?_, ?_⟩
  · intro hs
    rw [hs] at hforward
    exact hforward.eq_expired
  · intro hs
    rw [hs] at hforward
    exact hforward.ne_succeeded
  · intro hs hquiet hmem
    rcases hinv.file hmem with hsucc | hheld
    · rw [hs] at hsucc
      cases hsucc
    · obtain ⟨i, hi⟩ := Option.ne_none_iff_exists'.mp hheld
      have hlocking := (hinv.holds i hi).2
      rcases hquiet i with hp | hp
      · rw [hp] at hlocking
        exact hlocking
      · rw [hp] at hlocking
        exact hlocking

/-- A new export. -/
def newExport : ReportExport where
  tenantId := 1
  id := 7
  fileFormat := "csv"

/-- One execution, which writes three rows, and one expiry. -/
def executeAndExpire : Bool → Task
  | true => .execute (.written 3)
  | false => .expire

/-- One after the other. -/
theorem expired_for_good_inTurn :
    let w := (World.start newExport).run executeAndExpire
      ([true, true, true, true, false, false, false] : List Bool)
    (w.row.status = .expired → w.Quiet → newExport.key ∉ w.files) ∧ w.row.status = .expired := by
  have hwritten : Writing.written 3 ≠ .broken true := by decide
  have h := expired_for_good executeAndExpire newExport rfl rfl
    [true, true, true, true, false, false, false] []
    ⟨trivial, fun _ => rfl, hwritten, trivial, trivial, trivial, fun _ => .inl rfl, trivial⟩
  exact ⟨h.2.2, by decide⟩

/-- Both read the new export. The expiry commits first, and then the execution succeeds. -/
theorem not_expired_for_good_overtaken :
    ¬ ∀ sched sched' : List Bool,
      let w := (World.start newExport).run executeAndExpire sched
      let w' := (World.start newExport).run executeAndExpire (sched ++ sched')
      (w.row.status = .expired → w'.row.status = .expired) ∧
      (w.row.status = .failed → w'.row.status ≠ .succeeded) ∧
      (w.row.status = .expired → w.Quiet → newExport.key ∉ w.files) := by
  intro h
  have hexpired := (h [true, false, false] [true, true, true]).1
  revert hexpired
  decide

end CrossPilot.Report
