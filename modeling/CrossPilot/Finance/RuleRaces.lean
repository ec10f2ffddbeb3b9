import CrossPilot.Finance.RuleVersions
import CrossPilot.Lib.Outline

/-!
# Requests for rules at the same time

A new version is checked against rows that were read earlier, and the version it cuts short is not
locked meanwhile. What keeps the periods apart is the number of the new version: it is the next one
after those that were read, and as long as no other request has taken it, no other has been added and
every version of the key that is still active is as it was read (`Fresh`). Requests that retire a
version only take active ones away.
-/

namespace CrossPilot

open Transaction Table LandedCostService

namespace RuleTable

variable {ρ κ : Type} (T : RuleTable ρ κ)

/-- A version is for a day. -/
def Covers (row : ρ) (day : Day) : Prop :=
  T.effectiveFrom row ≤ day ∧ ∀ finish ∈ T.effectiveTo row, day < finish

/-- No two active versions of a key are for the same day. -/
structure Separate (d : Db) : Prop where
  keyed : Keyed T.id (T.rows d)
  disjoint : ∀ a ∈ T.rows d, ∀ b ∈ T.rows d, T.status a = .active → T.status b = .active →
    T.key a = T.key b → ∀ day, T.Covers a day → T.Covers b day → a = b

/-! ### The version cut short -/

/-- The change of the rows when a version is cut short. -/
def cut (period : Period) (current : Option ρ) (r : ρ) : ρ :=
  if current.any (T.id · = T.id r) then T.endOn period.effectiveFrom r else r

@[simp] lemma id_cut (period : Period) (current : Option ρ) (r : ρ) :
    T.id (T.cut period current r) = T.id r := by
  unfold cut
  split_ifs <;> simp

@[simp] lemma key_cut (period : Period) (current : Option ρ) (r : ρ) :
    T.key (T.cut period current r) = T.key r := by
  unfold cut
  split_ifs <;> simp

@[simp] lemma version_cut (period : Period) (current : Option ρ) (r : ρ) :
    T.version (T.cut period current r) = T.version r := by
  unfold cut
  split_ifs <;> simp

@[simp] lemma status_cut (period : Period) (current : Option ρ) (r : ρ) :
    T.status (T.cut period current r) = T.status r := by
  unfold cut
  split_ifs <;> simp

@[simp] lemma effectiveFrom_cut (period : Period) (current : Option ρ) (r : ρ) :
    T.effectiveFrom (T.cut period current r) = T.effectiveFrom r := by
  unfold cut
  split_ifs <;> simp

@[simp] lemma effectiveTo_cut (period : Period) (current : Option ρ) (r : ρ) :
    T.effectiveTo (T.cut period current r) = T.endBeside current period r := by
  unfold cut endBeside
  split_ifs <;> simp

/-- The version of the rows read that a new one cuts short. -/
def current (existing : List ρ) (period : Period) : Option ρ :=
  T.truncated (existing.filter fun row => T.status row = .active) period

lemma mem_of_mem_current {existing : List ρ} {period : Period} {c : ρ}
    (h : c ∈ T.current existing period) :
    c ∈ existing ∧ T.effectiveTo c = none := by
  have hopen : c ∈ (existing.filter fun row => T.status row = .active).filter
      fun row => T.effectiveTo row = none := by
    unfold current truncated at h
    split at h
    · rename_i only heq
      rw [heq]
      split_ifs at h
      · rw [Option.mem_some_iff] at h
        exact List.mem_singleton.2 h.symm
      · cases h
    · cases h
  simp only [List.mem_filter, decide_eq_true_eq] at hopen
  exact ⟨hopen.1.1, hopen.2⟩

/-- The version that is cut short starts earlier than the new one. -/
lemma lt_of_mem_current {existing : List ρ} {period : Period} {c : ρ}
    (h : c ∈ T.current existing period) : T.effectiveFrom c < period.effectiveFrom := by
  unfold current truncated at h
  split at h
  · split_ifs at h with hstart
    · obtain rfl := Option.some.inj h
      exact hstart.1
    · cases h
  · cases h

variable [DecidableEq κ]

/-! ### Commits -/

/-- What a request makes of the rows, with its locks: it changes them by `g`, and may add one. -/
structure RowChange (ls : List RowKey) (d : Db) (g : ρ → ρ) (new : Option ρ) : Prop where
  id : ∀ r, T.id (g r) = T.id r
  key : ∀ r, T.key (g r) = T.key r
  version : ∀ r, T.version (g r) = T.version r
  active : ∀ r, T.status (g r) = .active → T.status r = .active
  covers : ∀ r ∈ T.rows d, T.status (g r) = .active → ∀ day, T.Covers (g r) day → T.Covers r day
  kept : ∀ r ∈ T.rows d, T.status (g r) = .active → (∀ row ∈ new, T.key row ≠ T.key r) → g r = r
  locks : ∀ row ∈ new, T.rowLock (T.id row) ∈ ls ∧ T.versionLock (T.key row) (T.version row) ∈ ls
  number : ∀ row ∈ new, T.version row = T.nextVersion (T.listForKey d (T.key row))
  fresh : ∀ row ∈ new, ∀ r ∈ T.rows d, T.id r ≠ T.id row
  separate : ∀ row ∈ new, ∀ r ∈ T.rows d, T.status (g r) = .active → T.key r = T.key row →
    ∀ day, T.Covers (g r) day → ¬ T.Covers row day

/-- What a request with these locks may commit. -/
def Commits (ls : List RowKey) (d d' : Db) : Prop :=
  ∃ g new, T.RowChange ls d g new ∧ T.rows d' = (T.rows d).map g ++ new.toList

/-- The next number after the rows that were read is taken, or every version of the key that is
still active is among them. -/
def Fresh (existing : List ρ) (key : κ) (d : Db) : Prop :=
  (∃ r ∈ T.rows d, T.key r = key ∧ T.version r = T.nextVersion existing) ∨
    (T.nextVersion (T.listForKey d key) = T.nextVersion existing ∧
      ∀ r ∈ T.rows d, T.key r = key → T.status r = .active → r ∈ existing)

/-- A version that was read has kept its id and its key. -/
def Present (id : ℕ) (key : κ) (d : Db) : Prop := ∃ r ∈ T.rows d, T.id r = id ∧ T.key r = key

/-- Two periods that do not overlap have no day in common. -/
lemma not_covers_of_not_overlap {startA startB : Day} {endA endB : Option Day}
    (h : rangesOverlap startA endA startB endB = false) {day : Day} (hA : startA ≤ day)
    (hA' : ∀ finish ∈ endA, day < finish) (hB : startB ≤ day) :
    ¬ ∀ finish ∈ endB, day < finish := by
  intro hB'
  have hoverlap : rangesOverlap startA endA startB endB = true := by
    simp only [rangesOverlap, Bool.and_eq_true, Option.all_eq_true, decide_eq_true_eq]
    exact ⟨fun finish hfinish => lt_of_le_of_lt hA (hB' finish hfinish),
      fun finish hfinish => lt_of_le_of_lt hB (hA' finish hfinish)⟩
  rw [h] at hoverlap
  cases hoverlap

variable {T} {ls : List RowKey} {d d' : Db}

lemma Commits.refl : T.Commits ls d d := by
  refine ⟨fun r => r, none, ?_, by simp⟩
  constructor <;> simp

/-- A request keeps the periods of the active versions apart. -/
lemma Separate.commits (h : T.Separate d) (hc : T.Commits ls d d') : T.Separate d' := by
  obtain ⟨g, new, hg, hrows⟩ := hc
  have hkeyed : Keyed T.id ((T.rows d).map g) := h.keyed.map_of fun r _ => hg.id r
  constructor
  · rw [hrows]
    cases new with
    | none => simpa using hkeyed
    | some row =>
      apply hkeyed.append_singleton
      intro s hs
      obtain ⟨r, hr, rfl⟩ := List.mem_map.1 hs
      rw [hg.id]
      exact hg.fresh row rfl r hr
  · have hnew : ∀ a ∈ (T.rows d).map g, ∀ row ∈ new, T.status a = .active → T.key a = T.key row →
        ∀ day, T.Covers a day → ¬ T.Covers row day := by
      intro a ha row hrow hactive hkey
      obtain ⟨r, hr, rfl⟩ := List.mem_map.1 ha
      rw [hg.key] at hkey
      exact hg.separate row hrow r hr hactive hkey
    intro a ha b hb hactive hactive' hkey day hday hday'
    rw [hrows, List.mem_append, Option.mem_toList] at ha hb
    rcases ha with ha | ha
    · rcases hb with hb | hb
      · obtain ⟨r, hr, rfl⟩ := List.mem_map.1 ha
        obtain ⟨s, hs, rfl⟩ := List.mem_map.1 hb
        rw [hg.key, hg.key] at hkey
        rw [h.disjoint r hr s hs (hg.active r hactive) (hg.active s hactive') hkey day
          (hg.covers r hr hactive day hday) (hg.covers s hs hactive' day hday')]
      · exact absurd hday' (hnew a ha b hb hactive hkey day hday)
    · rcases hb with hb | hb
      · exact absurd hday (hnew b hb a ha hactive' hkey.symm day hday')
      · exact Option.mem_unique ha hb

/-- A row stays in the table, with its id, its key and its number. -/
lemma Commits.keeps (hc : T.Commits ls d d') {r : ρ} (hr : r ∈ T.rows d) :
    ∃ s ∈ T.rows d', T.id s = T.id r ∧ T.key s = T.key r ∧ T.version s = T.version r := by
  obtain ⟨g, new, hg, hrows⟩ := hc
  refine ⟨g r, ?_, hg.id r, hg.key r, hg.version r⟩
  rw [hrows]
  exact List.mem_append_left _ (List.mem_map_of_mem hr)

lemma Commits.present (hc : T.Commits ls d d') {id : ℕ} {key : κ} (h : T.Present id key d) :
    T.Present id key d' := by
  obtain ⟨r, hr, rfl, rfl⟩ := h
  obtain ⟨s, hs, hid, hkey, -⟩ := hc.keeps hr
  exact ⟨s, hs, hid, hkey⟩

/-- If a version of the key is added, it takes the next number; if not, nothing active is new. -/
lemma Commits.freshFor (hc : T.Commits ls d d') {existing : List ρ} {key : κ}
    (h : T.Fresh existing key d) : T.Fresh existing key d' := by
  rcases h with ⟨r, hr, hkey, hversion⟩ | ⟨hnext, hread⟩
  · obtain ⟨s, hs, -, hskey, hsversion⟩ := hc.keeps hr
    exact .inl ⟨s, hs, hskey.trans hkey, hsversion.trans hversion⟩
  · obtain ⟨g, new, hg, hrows⟩ := hc
    by_cases hadded : ∃ row ∈ new, T.key row = key
    · obtain ⟨row, hrow, rfl⟩ := hadded
      refine .inl ⟨row, ?_, rfl, ?_⟩
      · rw [hrows]
        exact List.mem_append_right _ (Option.mem_toList.2 hrow)
      · rw [hg.number row hrow, hnext]
    · push Not at hadded
      have hlist : T.listForKey d' key = (T.listForKey d key).map g := by
        have hnone : new.toList.filter (fun row => T.key row = key) = [] := by
          simpa [List.filter_eq_nil_iff] using hadded
        have hsame : (fun row => decide (T.key row = key)) ∘ g = fun row => decide (T.key row = key) :=
          funext fun r => by simp [hg.key]
        rw [listForKey, hrows, List.filter_append, hnone, List.append_nil, List.filter_map, hsame]
        rfl
      refine .inr ⟨?_, fun s hs hskey hactive => ?_⟩
      · rw [hlist, nextVersion_map T hg.version, hnext]
      · rw [hrows, List.mem_append, Option.mem_toList] at hs
        rcases hs with hs | hs
        · obtain ⟨r, hr, rfl⟩ := List.mem_map.1 hs
          rw [hg.key] at hskey
          have hsame : g r = r := hg.kept r hr hactive fun row hrow => by
            rw [hskey]
            exact hadded row hrow
          rw [hsame] at hactive ⊢
          exact hread r hr hskey hactive
        · exact absurd hskey (hadded s hs)

/-- Who holds the places of a row in the unique indexes is the only one to fill them. -/
lemma Commits.taken {ls' : List RowKey} (hc : T.Commits ls' d d') {row : ρ}
    (hid : T.rowLock (T.id row) ∈ ls) (hversion : T.versionLock (T.key row) (T.version row) ∈ ls)
    (hdisj : ls.Disjoint ls') (h : T.taken d row = false) : T.taken d' row = false := by
  obtain ⟨g, new, hg, hrows⟩ := hc
  simp only [RuleTable.taken, hrows, List.any_append, List.any_map, Bool.or_eq_false_iff,
    List.any_eq_false, Option.mem_toList] at h ⊢
  constructor
  · intro r hr
    simpa [hg.id, hg.key, hg.version] using h r hr
  · intro other hother
    obtain ⟨hlock, hlock'⟩ := hg.locks other hother
    simp only [Bool.or_eq_true, decide_eq_true_eq, Bool.and_eq_true, not_or, not_and]
    constructor
    · intro hsame
      rw [hsame] at hlock
      exact hdisj hid hlock
    · intro hkey hsame
      rw [hkey, hsame] at hlock'
      exact hdisj hversion hlock'

/-! ### A new version -/

section create

variable {existing : List ρ} {key : κ} {period : Period} {row : ρ}

/-- What a request knows of the committed rows once it has read those of its key. -/
def Known (T : RuleTable ρ κ) (existing : List ρ) (key : κ) (period : Period) (d : Db) : Prop :=
  T.Fresh existing key d ∧ ∀ c ∈ T.current existing period, T.Present (T.id c) key d

lemma stable_known (ls : List RowKey) :
    Stable T.Separate T.Commits ls (T.Known existing key period) :=
  fun _ _ _ _ h _ hc => ⟨hc.freshFor h.1, fun c hcur => hc.present (h.2 c hcur)⟩

lemma known_listForKey (d : Db) : T.Known (T.listForKey d key) key period d := by
  constructor
  · refine .inr ⟨rfl, fun r hr hkey _ => ?_⟩
    simp [listForKey, hr, hkey]
  · intro c hc
    obtain ⟨hmem, -⟩ := mem_of_mem_current T hc
    simp only [listForKey, List.mem_filter, decide_eq_true_eq] at hmem
    exact ⟨c, hmem.1, rfl, hmem.2⟩

/-- The columns of a new version that follows the rows that were read. -/
structure Follows (T : RuleTable ρ κ) (existing : List ρ) (key : κ) (period : Period) (row : ρ) :
    Prop where
  key : T.key row = key
  effectiveFrom : T.effectiveFrom row = period.effectiveFrom
  effectiveTo : T.effectiveTo row = period.effectiveTo
  version : T.version row = T.nextVersion existing

/-- A new version may be committed if its number is still free. -/
lemma rowChange_create (hd : T.Separate d) (hkeyed : Keyed T.id existing)
    (hoverlap : T.overlaps existing period = false) (hrow : T.Follows existing key period row)
    (hknown : T.Known existing key period d) (htaken : T.taken d row = false)
    (hid : T.rowLock (T.id row) ∈ ls) (hversion : T.versionLock (T.key row) (T.version row) ∈ ls) :
    T.RowChange ls d (T.cut period (T.current existing period)) (some row) := by
  have hfree : ∀ r ∈ T.rows d, T.id r ≠ T.id row ∧
      (T.key r = T.key row → T.version r ≠ T.version row) := by
    simpa [RuleTable.taken, not_or] using htaken
  obtain ⟨hnext, hread⟩ : T.nextVersion (T.listForKey d key) = T.nextVersion existing ∧
      ∀ r ∈ T.rows d, T.key r = key → T.status r = .active → r ∈ existing := by
    rcases hknown.1 with ⟨r, hr, hkey, hnumber⟩ | h
    · exact absurd (hnumber.trans hrow.version.symm) ((hfree r hr).2 (hkey.trans hrow.key.symm))
    · exact h
  -- what is cut short is the open version of the key
  have hcut : ∀ c ∈ T.current existing period, ∀ r ∈ T.rows d, T.id c = T.id r →
      T.key r = key ∧ (T.status r = .active → T.effectiveTo r = none) := by
    intro c hc r hr hsame
    obtain ⟨s, hs, hsid, hskey⟩ := hknown.2 c hc
    obtain rfl : s = r := hd.keyed.eq_of_key_eq hs hr (hsid.trans hsame)
    refine ⟨hskey, fun hactive => ?_⟩
    obtain ⟨hmem, hopen⟩ := mem_of_mem_current T hc
    rw [hkeyed.eq_of_key_eq (hread s hs hskey hactive) hmem hsame.symm]
    exact hopen
  have hcut' : ∀ r ∈ T.rows d, (T.current existing period).any (T.id · = T.id r) = true →
      T.key r = key ∧ (T.status r = .active → T.effectiveTo r = none) := by
    intro r hr hany
    obtain ⟨c, hc, hsame⟩ := (Option.any_eq_true _ _).1 hany
    exact hcut c hc r hr (of_decide_eq_true hsame)
  constructor
  · exact T.id_cut period _
  · exact T.key_cut period _
  · exact T.version_cut period _
  · intro r hactive
    rwa [T.status_cut] at hactive
  · intro r hr hactive day hday
    rw [T.status_cut] at hactive
    obtain ⟨hfrom, hto⟩ := hday
    rw [T.effectiveFrom_cut] at hfrom
    refine ⟨hfrom, ?_⟩
    by_cases hany : (T.current existing period).any (T.id · = T.id r) = true
    · rw [(hcut' r hr hany).2 hactive]
      simp
    · rwa [T.effectiveTo_cut, endBeside, if_neg hany] at hto
  · intro r hr _ hother
    apply if_neg
    intro hany
    exact hother row rfl (hrow.key.trans (hcut' r hr hany).1.symm)
  · rintro _ ⟨rfl⟩
    exact ⟨hid, hversion⟩
  · rintro _ ⟨rfl⟩
    rw [hrow.version, hrow.key, hnext]
  · rintro _ ⟨rfl⟩
    exact fun r hr => (hfree r hr).1
  · rintro _ ⟨rfl⟩ r hr hactive hkey day ⟨hfrom, hto⟩ ⟨hfrom', hto'⟩
    rw [T.status_cut] at hactive
    rw [T.effectiveFrom_cut] at hfrom
    rw [T.effectiveTo_cut] at hto
    rw [hrow.effectiveFrom] at hfrom'
    rw [hrow.effectiveTo] at hto'
    have hmem := hread r hr (hkey.trans hrow.key) hactive
    have hno : rangesOverlap (T.effectiveFrom r)
        (T.endBeside (T.current existing period) period r) period.effectiveFrom
        period.effectiveTo = false := by
      simp only [overlaps, List.any_eq_false, List.mem_filter, decide_eq_true_eq] at hoverlap
      simpa [current] using hoverlap r ⟨hmem, hactive⟩
    exact not_covers_of_not_overlap hno hfrom hto hfrom' hto'

/-! ### Outlines -/

/-- The rows with the version cut short. -/
def Cuts (T : RuleTable ρ κ) (period : Period) (cur : Option ρ) (c : Db → Db) : Prop :=
  ∀ d, T.rows (c d) = (T.rows d).map (T.cut period cur)

lemma taken_of_cuts {cur : Option ρ} {c : Db → Db} (hc : T.Cuts period cur c) (d : Db) (row : ρ) :
    T.taken (c d) row = T.taken d row := by
  simp [RuleTable.taken, hc d, List.any_map, Function.comp_def]

omit [DecidableEq κ] in
lemma cuts_none : T.Cuts period none fun d => d := by
  intro d
  have hsame : T.cut period none = fun r => r := funext fun r => if_neg (by simp)
  rw [hsame, List.map_id']

omit [DecidableEq κ] in
lemma cuts_some (c : ρ) : T.Cuts period (some c) fun d =>
    T.setRows (alter T.id (T.id c) (T.endOn period.effectiveFrom) (T.rows d)) d := by
  intro d
  rw [T.rows_setRows, alter]
  apply List.map_congr_left
  intro r _
  by_cases hsame : T.id r = T.id c
  · simp [cut, hsame]
  · simp [cut, hsame, Ne.symm hsame]

/-- The statement that cuts a version short, and what comes after it. -/
lemma outline_truncate {α : Type} {l : Session} {P : Db → Prop} {cur : Option ρ}
    {k : Unit → Work α} (hP : ∀ ls, Stable T.Separate T.Commits ls P)
    (h : ∀ c ls, T.Cuts period cur c →
      Outline T.Separate T.Commits (fun _ _ => True) (k ()) l c ls P) :
    Outline T.Separate T.Commits (fun _ _ => True) ((T.truncate period cur).bind k) l
      (fun d => d) [] P := by
  cases cur with
  | none => exact h _ _ cuts_none
  | some c =>
    apply Outline.update
    exact fun d _ hd => ⟨P, hd, hP _, fun d' _ hd' _ => ⟨P, hd', hP _, h _ _ (cuts_some c)⟩⟩

/-- The statement that adds the new version. -/
lemma outline_add {l : Session} {c : Db → Db} {ls : List RowKey}
    (hc : T.Cuts period (T.current existing period) c) (hkeyed : Keyed T.id existing)
    (hoverlap : T.overlaps existing period = false) (hrow : T.Follows existing key period row) :
    Outline T.Separate T.Commits (fun _ _ => True) ((T.add row).bind fun _ => .ret row) l c ls
      (T.Known existing key period) := by
  intro d _ hd
  refine ⟨T.Known existing key period, hd, stable_known _, fun d' _ hd' _ => ?_⟩
  cases htaken : T.taken (c d') row with
  | true =>
    refine ⟨fun _ => True, trivial, stable_true _, ?_⟩
    show Outline _ _ _ (((if T.taken (c d') row = true then raise (.integrity "version")
      else return ()) : Work Unit).bind fun _ => .ret row) _ _ _ _
    rw [if_pos htaken]
    trivial
  | false =>
    have hfree : Stable T.Separate T.Commits
        ([T.rowLock (T.id row), T.versionLock (T.key row) (T.version row)] ++ ls)
        fun d => T.taken d row = false :=
      fun d d' ls' _ h hdisj hcommits => hcommits.taken (by simp) (by simp) hdisj h
    refine ⟨_, ⟨hd', by rwa [taken_of_cuts hc] at htaken⟩, (stable_known _).and hfree, ?_⟩
    show Outline _ _ _ (((if T.taken (c d') row = true then raise (.integrity "version")
      else return ()) : Work Unit).bind fun _ => .ret row) _ _ _ _
    rw [if_neg (by simp [htaken])]
    rintro d hd ⟨hknown, hfree⟩
    refine ⟨_, some row, rowChange_create hd hkeyed hoverlap hrow hknown hfree (by simp) (by simp),
      ?_⟩
    have hfree' : T.taken (c d) row = false := by rwa [taken_of_cuts hc]
    simp [hfree', T.rows_setRows, hc d]

/-- What a request for a new version commits keeps the versions apart. -/
theorem outline_create {overlap : ServiceError} {amount : Except ServiceError ℚ}
    {make : ℚ → ℕ → ℕ → ρ} (hmake : ∀ a id version, T.columns (make a id version) =
      ⟨id, key, period.effectiveFrom, period.effectiveTo, version, .active⟩) (l : Session) :
    Outline T.Separate T.Commits (fun _ _ => True) (T.create key period overlap amount make) l
      (fun d => d) [] fun _ => True := by
  apply Outline.select
  intro d hd _
  refine ⟨T.Known (T.listForKey d key) key period, known_listForKey d, stable_known [], ?_⟩
  have hkeyed : Keyed T.id (T.listForKey d key) := hd.keyed.sublist (List.filter_sublist.map _)
  split_ifs with hoverlap
  · trivial
  · rw [Bool.not_eq_true] at hoverlap
    cases amount with
    | error e => trivial
    | ok amount =>
      apply outline_truncate fun ls => stable_known ls
      intro c ls hc
      -- the id is drawn from the session
      refine fun d' _ hd' => ⟨_, hd', stable_known _, ?_⟩
      apply outline_add hc hkeyed hoverlap
      constructor <;> simp [RuleTable.key, RuleTable.effectiveFrom, RuleTable.effectiveTo,
        RuleTable.version, hmake]

end create

/-- What a request to retire a version commits keeps the versions apart. -/
theorem outline_retire (id : ℕ) (today : Day) (l : Session) :
    Outline T.Separate T.Commits (fun _ _ => True) (T.retire id today) l (fun d => d) []
      fun _ => True := by
  apply Outline.select
  intro d _ _
  refine ⟨fun _ => True, trivial, stable_true [], ?_⟩
  cases (T.rows d).find? fun row => T.id row = id with
  | none => trivial
  | some row =>
    dsimp only
    split_ifs with hdisabled
    · exact fun d _ _ => Commits.refl
    · refine fun d _ _ => ⟨fun _ => True, trivial, stable_true _, fun d' _ _ _ =>
        ⟨fun _ => True, trivial, stable_true _, fun d _ _ => ?_⟩⟩
      refine ⟨fun r => if T.id r = id then T.retired row today r else r, none, ?_, ?_⟩
      · constructor
        · intro r
          split_ifs <;> simp
        · intro r
          split_ifs <;> simp
        · intro r
          split_ifs <;> simp
        · intro r
          split_ifs <;> simp
        · intro r _ hactive
          split_ifs at hactive ⊢
          · simp at hactive
          · exact fun day h => h
        · intro r _ hactive _
          split_ifs at hactive ⊢
          · simp at hactive
          · rfl
        all_goals simp
      · simp [T.rows_setRows, alter]

end RuleTable

/-! ### Requests -/

/-- A request about the tax rules. -/
inductive TaxRequest
  | create (payload : TaxRuleCreate) (now : Instant)
  | retire (ruleId : ℕ) (today : Day)

def TaxRequest.work : TaxRequest → Work CountryTaxRule
  | create payload now => TaxRuleService.create payload now
  | retire ruleId today => TaxRuleService.retire ruleId today

/-- A request about the fees. -/
inductive FeeRequest
  | create (payload : FeeCreate) (now : Instant)
  | retire (feeId : ℕ) (today : Day)

def FeeRequest.work : FeeRequest → Work LandedCostFee
  | create payload now => createFee payload now
  | retire feeId today => retireFee feeId today

/-- Requests that start on the same rows. -/
def requests {ι ρ : Type} (d : Db) (work : ι → Work ρ) (l : ι → Session) :
    World ι Session Db RowKey ServiceError ρ :=
  ⟨d, fun i => Tx.start (work i) (l i)⟩

section kept

variable {ι ρ κ : Type} [Fintype ι] [DecidableEq ι] [DecidableEq κ]

/-- The active versions of a key have no day in common, so that at most one of them is listed for a
day, and a request that fails has left every row as it was. -/
structure KeepsApart (T : RuleTable ρ κ) (listEffective : Db → String → Day → List ρ)
    (w : World ι Session Db RowKey ServiceError ρ) (sched : List ι) : Prop where
  separate : T.Separate (w.run sched).committed
  single : ∀ place on, ((listEffective (w.run sched).committed place on).map T.key).Nodup
  untouched : ∀ before i after e, sched = before ++ i :: after →
    ((w.run sched).tx i).point = .done (.error e) →
    (w.run (before ++ [i])).committed = (w.run before).committed

lemma keepsApart_of_outline {T : RuleTable ρ κ} {listEffective : Db → String → Day → List ρ}
    (hlist : ∀ d place on, ∀ r ∈ listEffective d place on,
      T.status r = .active ∧ T.Covers r on)
    (hsub : ∀ d place on, (listEffective d place on).Sublist (T.rows d)) {d : Db}
    (hd : T.Separate d) {work : ι → Work ρ}
    (hwork : ∀ i l, Outline T.Separate T.Commits (fun _ _ => True) (work i) l (fun d => d) []
      fun _ => True) (l : ι → Session) (sched : List ι) :
    KeepsApart T listEffective (requests d work l) sched := by
  have hseparate : T.Separate ((requests d work l).run sched).committed :=
    World.outlined (fun ls d d' h hc => h.commits hc) hd (fun i => hwork i (l i))
      (World.allFind_true _ sched)
  refine ⟨hseparate, fun place on => ?_, ?_⟩
  · have hnodup := ((hseparate.keyed.sublist ((hsub _ place on).map _)).of_map)
    apply hnodup.map_on
    intro a ha b hb hkey
    obtain ⟨hactive, hday⟩ := hlist _ place on a ha
    obtain ⟨hactive', hday'⟩ := hlist _ place on b hb
    exact hseparate.disjoint a ((hsub _ place on).subset ha) b ((hsub _ place on).subset hb)
      hactive hactive' hkey on hday hday'
  · rintro before i after e rfl herror
    rw [World.run_append] at herror ⊢
    exact World.committed_of_error herror

end kept

/-- What is in force on a day is active and for that day. -/
lemma effective_iff {status : RuleStatus} {start on : Day} {finish : Option Day} :
    effective status start finish on = true ↔
      status = .active ∧ start ≤ on ∧ ∀ e ∈ finish, on < e := by
  simp [effective, and_assoc, Option.all_eq_true]

/-- **Requests for rules at the same time.** Whatever requests to create and to retire versions run
at once, the active versions of a key have no day in common, at most one of them is listed for a
day, and a request that fails has left every row as it was. -/
theorem versions_apart {ι : Type} [Fintype ι] [DecidableEq ι] {d : Db}
    (htax : TaxRuleService.rules.Separate d) (hfees : fees.Separate d) (tax : ι → TaxRequest)
    (fee : ι → FeeRequest) (l : ι → Session) (sched : List ι) :
    KeepsApart TaxRuleService.rules TaxRuleService.listEffective
      (requests d (fun i => (tax i).work) l) sched ∧
    KeepsApart fees listEffectiveFees (requests d (fun i => (fee i).work) l) sched := by
  constructor
  · refine keepsApart_of_outline ?_ (fun _ _ _ => List.filter_sublist) htax (fun i l => ?_) l sched
    · intro d place on r hr
      simp only [List.mem_filter, Bool.and_eq_true] at hr
      exact effective_iff.1 hr.2.2
    · cases tax i with
      | create payload now =>
        simp only [TaxRequest.work, TaxRuleService.create]
        split_ifs
        · trivial
        · exact RuleTable.outline_create (fun _ _ _ => rfl) l
      | retire ruleId today => exact RuleTable.outline_retire ruleId today l
  · refine keepsApart_of_outline ?_ (fun _ _ _ => List.filter_sublist) hfees (fun i l => ?_) l sched
    · intro d place on r hr
      simp only [List.mem_filter, Bool.and_eq_true] at hr
      exact effective_iff.1 hr.2.2
    · cases fee i with
      | create payload now => exact RuleTable.outline_create (fun _ _ _ => rfl) l
      | retire feeId today => exact RuleTable.outline_retire feeId today l

/-! ### Two new rates at once -/

/-- A rate that is open. -/
def openRate : CountryTaxRule where
  id := 1
  country := "DE"
  taxType := .vat
  rate := 19 / 100
  effectiveFrom := 0
  version := 1
  source := "EU"
  verifiedAt := 0

def oneRate : Db := { taxRules := [openRate] }

lemma separate_oneRate : TaxRuleService.rules.Separate oneRate := by
  have hrows : TaxRuleService.rules.rows oneRate = [openRate] := rfl
  constructor
  · rw [hrows]
    simp [Keyed]
  · intro a ha b hb _ _ _ _ _ _
    rw [hrows, List.mem_singleton] at ha hb
    rw [ha, hb]

/-- Requests for a new rate from two days on. -/
def twoRates (i : Bool) : TaxRequest :=
  .create ⟨⟨"DE", .vat, "*"⟩, 21, 1, 1, none, none, ⟨if i then 100 else 200, none, nofun⟩, "EU"⟩ 0

def noFees (_ : Bool) : FeeRequest := .retire 1 0

/-- Ids that the two workers draw. -/
def twoWorkers (i : Bool) : Session := { ids := fun n => 2 * n + if i then 10 else 11 }

/-- Both requests read before one of them goes on to its end, and the other after it. -/
def raceForVersion : List Bool :=
  [true, false] ++ List.replicate 8 true ++ List.replicate 8 false

theorem versions_apart_twoRates :
    KeepsApart TaxRuleService.rules TaxRuleService.listEffective
      (requests oneRate (fun i => (twoRates i).work) twoWorkers) raceForVersion ∧
    KeepsApart fees listEffectiveFees
      (requests oneRate (fun i => (noFees i).work) twoWorkers) raceForVersion :=
  versions_apart separate_oneRate ⟨List.nodup_nil, fun _ ha => absurd ha List.not_mem_nil⟩ twoRates
    noFees twoWorkers raceForVersion

/-- The second request to add its version is refused. -/
example : ((requests oneRate (fun i => (twoRates i).work) twoWorkers).run
    raceForVersion).committed.taxRules.map
      (fun row => (row.version, row.effectiveFrom, row.effectiveTo)) =
    [(1, 0, some 100), (2, 100, none)] := by
  decide +kernel

end CrossPilot
