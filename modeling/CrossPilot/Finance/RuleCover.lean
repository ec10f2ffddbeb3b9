import CrossPilot.Finance.RuleHistory

/-!
# Days without a rule

A new version may cut the open one short and end itself. From its end on, no version is left for days
that the open one was for; all other days keep theirs (`cover_lost_iff`).
-/

namespace CrossPilot

open Transaction Table LandedCostService

namespace RuleTable

variable {ρ κ : Type} (T : RuleTable ρ κ)

/-- Some active version of the key is for the day. -/
def Covered (d : Db) (key : κ) (day : Day) : Prop :=
  ∃ r ∈ T.rows d, T.key r = key ∧ T.status r = .active ∧ T.Covers r day

variable [DecidableEq κ]

/-- A new version is let through and cuts the open one short, and it has ended by the day. -/
def Uncovers (d : Db) (l : Session) (key : κ) (period : Period) (amount : Except ServiceError ℚ)
    (day : Day) : Prop :=
  T.Accepts d l key period amount ∧ (T.current (T.listForKey d key) period).isSome ∧
    ∃ finish ∈ period.effectiveTo, finish ≤ day

variable {T} {d d' : Db} {l : Session} {key : κ} {period : Period} {amount : Except ServiceError ℚ}

/-- A new version keeps the active ones apart. -/
lemma Separate.create (hd : T.Separate d) (h : T.Leaves d l key period amount d') :
    T.Separate d' := by
  by_cases haccepts : T.Accepts d l key period amount
  · obtain ⟨row, hcolumns, hrows⟩ := h.1 haccepts
    have hfollows : T.Follows (T.listForKey d key) key period row := by
      constructor <;> simp [RuleTable.key, RuleTable.effectiveFrom, RuleTable.effectiveTo,
        RuleTable.version, hcolumns]
    have htaken : T.taken d row = false := by
      simp only [RuleTable.taken, List.any_eq_false, Bool.or_eq_true, Bool.and_eq_true,
        decide_eq_true_eq, not_or, not_and]
      refine fun r hr => ⟨?_, fun hkey => ?_⟩
      · simpa [RuleTable.id, hcolumns] using haccepts.2.2 r hr
      · have hmem : r ∈ T.listForKey d key := by
          rw [listForKey, List.mem_filter, decide_eq_true_eq]
          exact ⟨hr, hkey.trans hfollows.key⟩
        rw [hfollows.version]
        exact (version_lt_nextVersion hmem).ne
    have hkeyed : Keyed T.id (T.listForKey d key) :=
      hd.keyed.sublist (List.filter_sublist.map T.id)
    have hchange : T.RowChange [T.rowLock (T.id row), T.versionLock (T.key row) (T.version row)] d
        (T.cut period (T.current (T.listForKey d key) period)) (some row) :=
      rowChange_create hd hkeyed haccepts.1 hfollows (known_listForKey d) htaken (by simp) (by simp)
    exact hd.commits ⟨_, some row, hchange, hrows⟩
  · rw [h.2 haccepts]
    exact hd

omit [DecidableEq κ] in
/-- A version that is retired is not active any more. -/
lemma Separate.retire {id : ℕ} {today : Day} (hd : T.Separate d) :
    T.Separate ((T.retire id today).commit l d) := by
  rcases rows_retire id today l hd.keyed with ⟨hrows, -⟩ | ⟨row, -, -, -, hrows⟩
  · exact ⟨by rw [hrows]; exact hd.keyed, by rw [hrows]; exact hd.disjoint⟩
  · have hold : ∀ s ∈ T.rows ((T.retire id today).commit l d), T.status s = .active →
        s ∈ T.rows d := by
      intro s hs hactive
      rw [hrows] at hs
      obtain ⟨r, hr, rfl⟩ := mem_alter.1 hs
      split_ifs at hactive ⊢ with hsame
      · rw [T.status_retired] at hactive
        cases hactive
      · exact hr
    constructor
    · rw [hrows]
      exact hd.keyed.alter (T.id_retired row today)
    · intro a ha b hb hactive hactive'
      exact hd.disjoint a (hold a ha hactive) b (hold b hb hactive') hactive hactive'

omit [DecidableEq κ] in
/-- What is cut short is active. -/
lemma active_of_mem_current {existing : List ρ} {c : ρ} (h : c ∈ T.current existing period) :
    T.status c = .active := by
  unfold current truncated at h
  split at h
  · rename_i only heq
    have hmem : c ∈ (existing.filter fun row => T.status row = .active).filter
        fun row => T.effectiveTo row = none := by
      rw [heq]
      split_ifs at h
      · rw [Option.mem_some_iff] at h
        exact List.mem_singleton.2 h.symm
      · cases h
    simpa using (List.mem_filter.1 (List.mem_filter.1 hmem).1).2
  · cases h

/-- A day loses its version if the open one is cut short and the new one has ended, and only then. -/
lemma not_covered_iff (hd : T.Separate d) (h : T.Leaves d l key period amount d') {key' : κ}
    {day : Day} (hcovered : T.Covered d key' day) :
    ¬ T.Covered d' key' day ↔ key' = key ∧ T.Uncovers d l key period amount day := by
  obtain ⟨r, hr, rfl, hactive, hday⟩ := hcovered
  by_cases haccepts : T.Accepts d l key period amount
  · obtain ⟨row, hcolumns, hrows⟩ := h.1 haccepts
    have hcut : ∀ s ∈ T.rows d,
        (T.current (T.listForKey d key) period).any (T.id · = T.id s) = true →
        s ∈ T.current (T.listForKey d key) period := by
      intro s hs hany
      obtain ⟨c, hc, hsame⟩ := (Option.any_eq_true _ _).1 hany
      obtain ⟨hmem, -⟩ := mem_of_mem_current T hc
      rwa [← hd.keyed.eq_of_key_eq (List.mem_of_mem_filter hmem) hs (of_decide_eq_true hsame)]
    have hkept : ∀ s ∈ T.rows d, T.cut period (T.current (T.listForKey d key) period) s ∈ T.rows d' := by
      intro s hs
      rw [hrows]
      exact List.mem_append_left _ (List.mem_map_of_mem hs)
    have hnew : row ∈ T.rows d' := by simp [hrows]
    constructor
    · intro hlost
      by_cases hany : (T.current (T.listForKey d key) period).any (T.id · = T.id r) = true
      · have hcurrent := hcut r hr hany
        obtain ⟨hmem, hopen⟩ := mem_of_mem_current T hcurrent
        have hkey : T.key r = key := by simpa [listForKey, hr] using hmem
        have hlate : period.effectiveFrom ≤ day := by
          by_contra hearly
          refine hlost ⟨_, hkept r hr, T.key_cut _ _ r, (T.status_cut _ _ r).trans hactive, ?_⟩
          simpa [Covers, endBeside, hany] using ⟨hday.1, not_le.1 hearly⟩
        refine ⟨hkey, haccepts, Option.isSome_iff_exists.2 ⟨r, hcurrent⟩, ?_⟩
        by_contra hlasts
        push Not at hlasts
        refine hlost ⟨row, hnew, ?_, ?_, ?_, ?_⟩
        · simp [RuleTable.key, hcolumns, ← hkey]
        · simp [RuleTable.status, hcolumns]
        · simpa [RuleTable.effectiveFrom, hcolumns] using hlate
        · simpa [RuleTable.effectiveTo, hcolumns] using hlasts
      · refine absurd ⟨_, hkept r hr, T.key_cut _ _ r, (T.status_cut _ _ r).trans hactive, ?_⟩ hlost
        simpa [Covers, endBeside, hany] using hday
    · rintro ⟨hkey, -, hcurrent, finish, hfinish, hended⟩ ⟨s, hs, hskey, hsactive, hsday⟩
      obtain ⟨c, hc⟩ := Option.isSome_iff_exists.1 hcurrent
      obtain ⟨hmem, hopen⟩ := mem_of_mem_current T hc
      simp only [listForKey, List.mem_filter, decide_eq_true_eq] at hmem
      have hstart := period.ordered finish hfinish
      have hcday : T.Covers c day := by
        refine ⟨(lt_of_mem_current T hc).le.trans (hstart.le.trans hended), ?_⟩
        rw [hopen]
        simp
      rw [hrows, List.mem_append, List.mem_singleton] at hs
      rcases hs with hs | rfl
      · obtain ⟨old, hold, rfl⟩ := List.mem_map.1 hs
        rw [T.key_cut] at hskey
        rw [T.status_cut] at hsactive
        by_cases hany : (T.current (T.listForKey d key) period).any (T.id · = T.id old) = true
        · have hend : day < period.effectiveFrom := by
            simpa [Covers, endBeside, hany] using hsday.2
          exact absurd (hstart.trans_le hended) (not_lt.2 hend.le)
        · have hoday : T.Covers old day := by
            simpa [Covers, endBeside, hany] using hsday
          have hsame : c = old := hd.disjoint c hmem.1 old hold (active_of_mem_current hc) hsactive
            (hmem.2.trans (hskey.trans hkey).symm) day hcday hoday
          refine hany ((Option.any_eq_true _ _).2 ⟨c, hc, ?_⟩)
          simp [hsame]
      · have hend := hsday.2
        simp only [RuleTable.effectiveTo, hcolumns] at hend
        exact absurd (hend finish hfinish) (not_lt.2 hended)
  · rw [h.2 haccepts]
    exact iff_of_false (not_not.mpr ⟨r, hr, rfl, hactive, hday⟩) fun hlost => haccepts hlost.2.1

end RuleTable

/-! ### Histories -/

section histories

variable {d : Db}

lemma separate_taxHistory (hd : TaxRuleService.rules.Separate d)
    (requests : List (TaxRequest × Session)) :
    TaxRuleService.rules.Separate (taxHistory d requests) := by
  induction requests generalizing d with
  | nil => exact hd
  | cons r rest ih =>
    apply ih
    obtain ⟨request, l⟩ := r
    cases request with
    | create payload now =>
      simp only [TaxRequest.work, TaxRuleService.create]
      split_ifs
      · exact hd
      · exact hd.create (RuleTable.leaves_create fun _ _ _ => rfl)
    | retire ruleId today => exact hd.retire

lemma separate_feeHistory (hd : fees.Separate d) (requests : List (FeeRequest × Session)) :
    fees.Separate (feeHistory d requests) := by
  induction requests generalizing d with
  | nil => exact hd
  | cons r rest ih =>
    apply ih
    obtain ⟨request, l⟩ := r
    cases request with
    | create payload now => exact hd.create (RuleTable.leaves_create fun _ _ _ => rfl)
    | retire feeId today => exact hd.retire

/-- **Days without a rule.** After any requests, a new version takes the rule from a day exactly if
it cuts the open version of its key short and has ended by that day. -/
theorem cover_lost_iff (htax : TaxRuleService.rules.Separate d) (hfees : fees.Separate d)
    (before : List (TaxRequest × Session)) (beforeFee : List (FeeRequest × Session))
    (tax : TaxRuleCreate) (fee : FeeCreate) (now : Instant) (l : Session) :
    (∀ key day, TaxRuleService.rules.Covered (taxHistory d before) key day →
      (¬ TaxRuleService.rules.Covered (taxHistory d (before ++ [(.create tax now, l)])) key day ↔
        key = tax.key ∧ Text.strip tax.source ≠ "" ∧
          TaxRuleService.rules.Uncovers (taxHistory d before) l tax.key tax.period
            (percentToFraction tax.rate) day)) ∧
    (∀ key day, fees.Covered (feeHistory d beforeFee) key day →
      (¬ fees.Covered (feeHistory d (beforeFee ++ [(.create fee now, l)])) key day ↔
        key = fee.key ∧
          fees.Uncovers (feeHistory d beforeFee) l fee.key fee.period (feeAmount fee) day)) := by
  constructor
  · intro key day hcovered
    have hd := separate_taxHistory htax before
    have hlast : taxHistory d (before ++ [(.create tax now, l)]) =
        (TaxRuleService.create tax now).commit l (taxHistory d before) := by
      simp [taxHistory, TaxRequest.work]
    rw [hlast, TaxRuleService.create]
    split_ifs with hblank
    · exact iff_of_false (not_not.mpr hcovered) fun h => h.2.1 hblank
    · rw [RuleTable.not_covered_iff hd (RuleTable.leaves_create fun _ _ _ => rfl) hcovered]
      simp [hblank]
  · intro key day hcovered
    have hd := separate_feeHistory hfees beforeFee
    have hlast : feeHistory d (beforeFee ++ [(.create fee now, l)]) =
        (createFee fee now).commit l (feeHistory d beforeFee) := by
      simp [feeHistory, FeeRequest.work]
    rw [hlast]
    exact RuleTable.not_covered_iff hd (RuleTable.leaves_create fun _ _ _ => rfl) hcovered

end histories

/-! ### A rate for a hundred days -/

/-- A rate for the days from the hundredth to the two hundredth. -/
def hundredDays : TaxRuleCreate where
  key := ⟨"DE", .vat, "*"⟩
  rate := 16
  period := ⟨100, some 200, by decide⟩
  source := "EU"

/-- A fee for the same days. -/
def hundredDaysFee : FeeCreate where
  key := ⟨"DE", .any, .brokerage, ""⟩
  charge := .fixed
  amount := 5
  period := ⟨100, some 200, by decide⟩
  source := "EU"

theorem cover_lost_iff_hundredDays :
    (∀ key day, TaxRuleService.rules.Covered (taxHistory oneRate []) key day →
      (¬ TaxRuleService.rules.Covered
          (taxHistory oneRate ([] ++ [(.create hundredDays 0, someWorker)])) key day ↔
        key = hundredDays.key ∧ Text.strip hundredDays.source ≠ "" ∧
          TaxRuleService.rules.Uncovers (taxHistory oneRate []) someWorker hundredDays.key
            hundredDays.period (percentToFraction hundredDays.rate) day)) ∧
    (∀ key day, fees.Covered (feeHistory oneRate []) key day →
      (¬ fees.Covered (feeHistory oneRate ([] ++ [(.create hundredDaysFee 0, someWorker)])) key
          day ↔
        key = hundredDaysFee.key ∧
          fees.Uncovers (feeHistory oneRate []) someWorker hundredDaysFee.key hundredDaysFee.period
            (feeAmount hundredDaysFee) day)) :=
  cover_lost_iff separate_oneRate ⟨List.nodup_nil, fun _ ha => absurd ha List.not_mem_nil⟩ [] []
    hundredDays hundredDaysFee 0 someWorker

/-- The open rate is for the three hundredth day, and after the new one is created none is. -/
theorem day_300_uncovered :
    TaxRuleService.rules.Covered oneRate ⟨"DE", .vat, "*"⟩ 300 ∧
    ((TaxRuleService.create hundredDays 0).commit someWorker oneRate).taxRules.length = 2 ∧
    ¬ TaxRuleService.rules.Covered (taxHistory oneRate [(.create hundredDays 0, someWorker)])
      ⟨"DE", .vat, "*"⟩ 300 := by
  have hrows : (taxHistory oneRate [(.create hundredDays 0, someWorker)]).taxRules.map
      (fun row => (row.effectiveFrom, row.effectiveTo)) = [(0, some 100), (100, some 200)] := by
    decide +kernel
  refine ⟨⟨openRate, ?_, rfl, rfl, ?_⟩, by decide +kernel, ?_⟩
  · exact List.mem_singleton.2 rfl
  · exact ⟨by decide, fun _ h => by cases h⟩
  · rintro ⟨r, hr, -, -, hday⟩
    have hmem : (r.effectiveFrom, r.effectiveTo) ∈
        [((0 : Day), some (100 : Day)), (100, some 200)] := by
      rw [← hrows]
      exact List.mem_map_of_mem hr
    have hend := hday.2
    simp only [List.mem_cons, Prod.mk.injEq, List.not_mem_nil, or_false] at hmem
    rcases hmem with ⟨-, hto⟩ | ⟨-, hto⟩
    · exact absurd (hend 100 hto) (by decide)
    · exact absurd (hend 200 hto) (by decide)

end CrossPilot
