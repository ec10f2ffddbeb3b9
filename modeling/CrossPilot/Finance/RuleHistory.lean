import CrossPilot.Finance.RuleRaces

/-!
# What rules were in force

A version that is retired keeps its period, with an end if it had none. But a version is listed for a
day only while it is active, and so the days before are recomputed without it. A version that is
created with a start in the past changes them as well. The days before a request are as they were
just if it is refused, or the version it is about starts no earlier (`past_kept_iff`).
-/

namespace CrossPilot

open Transaction Table LandedCostService

namespace RuleTable

variable {ρ κ : Type} (T : RuleTable ρ κ)

/-- The table keeps its keys, and periods end after they start. -/
structure Ordered (d : Db) : Prop where
  keyed : Keyed T.id (T.rows d)
  ordered : ∀ r ∈ T.rows d, ∀ finish ∈ T.effectiveTo r, T.effectiveFrom r < finish

/-- Whether a version is in force on a day, in the place asked for. -/
def inForce (place : κ → String) (asked : String) (on : Day) (row : ρ) : Bool :=
  place (T.key row) = asked &&
    effective (T.status row) (T.effectiveFrom row) (T.effectiveTo row) on

/-- The same versions are listed for every day before `today`. -/
def PastKept (place : κ → String) (d d' : Db) (today : Day) : Prop :=
  ∀ asked on, on < today → ((T.rows d').filter (T.inForce place asked on)).map T.id =
    ((T.rows d).filter (T.inForce place asked on)).map T.id

/-- The active version with the id starts no earlier than today. -/
def StartsLater (d : Db) (id : ℕ) (today : Day) : Prop :=
  ∀ r ∈ T.rows d, T.id r = id → T.status r = .active → today ≤ T.effectiveFrom r

/-- The end of a version that is retired is later than its start. -/
lemma lt_retireEnd (start : Day) (finish : Option Day) (today : Day) :
    start < retireEnd start finish today := by
  cases finish with
  | none =>
    simp only [retireEnd]
    split_ifs
    · assumption
    · exact lt_add_one start
  | some finish =>
    simp only [retireEnd]
    split_ifs with h
    · exact h.2
    · assumption
    · exact lt_add_one start

lemma version_lt_nextVersion {T : RuleTable ρ κ} {existing : List ρ} {r : ρ}
    (hr : r ∈ existing) :
    T.version r < T.nextVersion existing := by
  induction existing with
  | nil => cases hr
  | cons first rest ih =>
    simp only [nextVersion, List.map_cons, List.foldr_cons] at ih ⊢
    rcases List.mem_cons.1 hr with rfl | hr
    · omega
    · have := ih hr
      omega

variable [DecidableEq κ]

/-- A new version is let through: it overlaps no other, its amount is good and its id is new. -/
def Accepts (d : Db) (l : Session) (key : κ) (period : Period) (amount : Except ServiceError ℚ) :
    Prop :=
  T.overlaps (T.listForKey d key) period = false ∧ amount.isOk = true ∧
    ∀ r ∈ T.rows d, T.id r ≠ l.ids 0

/-- What a request for a new version leaves: if it is let through, the version is added after the
open one is cut short. -/
def Leaves (d : Db) (l : Session) (key : κ) (period : Period) (amount : Except ServiceError ℚ)
    (d' : Db) : Prop :=
  (T.Accepts d l key period amount → ∃ row, T.columns row = ⟨l.ids 0, key, period.effectiveFrom,
      period.effectiveTo, T.nextVersion (T.listForKey d key), .active⟩ ∧
    T.rows d' = (T.rows d).map (T.cut period (T.current (T.listForKey d key) period)) ++ [row]) ∧
  (¬ T.Accepts d l key period amount → d' = d)

variable {T} {d d' : Db} {today : Day}

/-! ### What a request leaves -/

section create

variable {key : κ} {period : Period} {overlap : ServiceError} {amount : Except ServiceError ℚ}
  {make : ℚ → ℕ → ℕ → ρ} {l : Session}

omit [DecidableEq κ] in
lemma wp_truncate {cur : Option ρ} {Q : Unit → WorkState → Prop}
    {E : ServiceError → WorkState → Prop} {s : WorkState}
    (h : ∀ c, T.Cuts period cur c → Q () { s with data := c s.data }) :
    (T.truncate period cur).wp Q E s := by
  cases cur with
  | none => exact h _ cuts_none
  | some c =>
    exact h (fun d => T.setRows (alter T.id (T.id c) (T.endOn period.effectiveFrom) (T.rows d)) d)
      (cuts_some c)

lemma leaves_create (hmake : ∀ a id version, T.columns (make a id version) =
      ⟨id, key, period.effectiveFrom, period.effectiveTo, version, .active⟩) :
    T.Leaves d l key period amount ((T.create key period overlap amount make).commit l d) := by
  refine Prog.commit_of_wp (R := T.Leaves d l key period amount) ?_
  simp only [RuleTable.create, Prog.bind_eq, Prog.wp_bind, Prog.wp_select]
  split_ifs with hoverlap
  · exact ⟨fun h => by simp [h.1] at hoverlap, fun _ => rfl⟩
  cases amount with
  | error e => exact ⟨fun h => absurd h.2.1 Bool.false_ne_true, fun _ => rfl⟩
  | ok amount =>
    simp only [Prog.wp_bind]
    apply wp_truncate
    intro c hc
    simp only [wp_nextSnowflakeId, RuleTable.add, Prog.bind_eq, Prog.wp_bind, Prog.wp_update]
    have hrow := hmake amount (l.ids 0) (T.nextVersion (T.listForKey d key))
    set row := make amount (l.ids 0) (T.nextVersion (T.listForKey d key)) with hdef
    have htaken : T.taken (c d) row = true ↔ ∃ r ∈ T.rows d, T.id r = l.ids 0 := by
      rw [taken_of_cuts hc]
      simp only [RuleTable.taken, List.any_eq_true, Bool.or_eq_true, Bool.and_eq_true,
        decide_eq_true_eq, RuleTable.id, RuleTable.key, RuleTable.version, hrow]
      refine exists_congr fun r => and_congr_right fun hr => or_iff_left ?_
      rintro ⟨hkey, hversion⟩
      have hmem : r ∈ T.listForKey d key := by
        simp only [listForKey, List.mem_filter, decide_eq_true_eq]
        exact ⟨hr, hkey⟩
      exact absurd hversion (version_lt_nextVersion hmem).ne
    by_cases hmem : T.taken (c d) row = true
    · simp only [hmem, if_true]
      refine ⟨fun h => ?_, fun _ => rfl⟩
      obtain ⟨r, hr, hid⟩ := htaken.1 hmem
      exact absurd hid (h.2.2 r hr)
    · simp only [hmem]
      refine ⟨fun _ => ⟨row, hrow, ?_⟩, fun h => ?_⟩
      · simp [T.rows_setRows, hc d, current]
      · refine absurd ⟨by simpa using hoverlap, rfl, fun r hr hid => ?_⟩ h
        exact hmem (htaken.2 ⟨r, hr, hid⟩)

end create

omit [DecidableEq κ] in
/-- A version that is retired is disabled; everything else stays. -/
lemma rows_retire (id : ℕ) (today : Day) (l : Session) (hd : Keyed T.id (T.rows d)) :
    T.rows ((T.retire id today).commit l d) = T.rows d ∧
        (∀ r ∈ T.rows d, T.id r = id → T.status r = .disabled) ∨
      ∃ row ∈ T.rows d, T.id row = id ∧ T.status row = .active ∧
        T.rows ((T.retire id today).commit l d) =
          alter T.id id (T.retired row today) (T.rows d) := by
  refine Prog.commit_of_wp (R := fun d' => T.rows d' = T.rows d ∧
        (∀ r ∈ T.rows d, T.id r = id → T.status r = .disabled) ∨
      ∃ row ∈ T.rows d, T.id row = id ∧ T.status row = .active ∧
        T.rows d' = alter T.id id (T.retired row today) (T.rows d)) ?_
  simp only [RuleTable.retire, Prog.bind_eq, Prog.wp_bind, Prog.wp_select]
  cases hfind : (T.rows d).find? fun row => T.id row = id with
  | none =>
    refine .inl ⟨trivial, fun r hr hid => ?_⟩
    have := List.find?_eq_none.1 hfind r hr
    simp [hid] at this
  | some row =>
    obtain ⟨hrow, hid⟩ := (find?_eq_some_iff hd).1 hfind
    dsimp only
    split_ifs with hdisabled
    · refine .inl ⟨rfl, fun r hr hid' => ?_⟩
      rw [hd.eq_of_key_eq hr hrow (hid'.trans hid.symm)]
      exact hdisabled
    · refine .inr ⟨row, hrow, hid, ?_, T.rows_setRows _ _⟩
      cases hstatus : T.status row with
      | active => rfl
      | disabled => exact absurd hstatus hdisabled

/-! ### The days before -/

variable {place : κ → String}

omit [DecidableEq κ] in
/-- Rows that are changed without a word about the past, and rows that are not in force in it. -/
lemma pastKept_of_map {g : ρ → ρ} {new : List ρ} (hrows : T.rows d' = (T.rows d).map g ++ new)
    (hid : ∀ r, T.id (g r) = T.id r)
    (hold : ∀ asked on, on < today → ∀ r ∈ T.rows d,
      T.inForce place asked on (g r) = T.inForce place asked on r)
    (hnew : ∀ asked on, on < today → ∀ r ∈ new, T.inForce place asked on r = false) :
    T.PastKept place d d' today := by
  intro asked on hon
  have hnone : new.filter (T.inForce place asked on) = [] :=
    List.filter_eq_nil_iff.2 fun r hr => by simp [hnew asked on hon r hr]
  have hsame : (T.rows d).filter (T.inForce place asked on ∘ g) =
      (T.rows d).filter (T.inForce place asked on) :=
    List.filter_congr fun r hr => hold asked on hon r hr
  rw [hrows, List.filter_append, hnone, List.append_nil, List.filter_map, hsame, List.map_map]
  exact List.map_congr_left fun r _ => hid r

omit [DecidableEq κ] in
lemma mem_listed {asked : String} {on : Day} {r : ρ} :
    r ∈ (T.rows d).filter (T.inForce place asked on) ↔ r ∈ T.rows d ∧ place (T.key r) = asked ∧
      T.status r = .active ∧ T.effectiveFrom r ≤ on ∧ ∀ finish ∈ T.effectiveTo r, on < finish := by
  simp only [inForce, List.mem_filter, Bool.and_eq_true, decide_eq_true_eq, effective_iff]

/-- The past is kept if a new version is refused or starts later. -/
lemma pastKept_create_iff {key : κ} {period : Period} {amount : Except ServiceError ℚ} {l : Session}
    (hd : T.Ordered d) (h : T.Leaves d l key period amount d') :
    T.PastKept place d d' today ↔
      (T.Accepts d l key period amount → today ≤ period.effectiveFrom) := by
  constructor
  · intro hkept haccepts
    by_contra hpast
    obtain ⟨row, hcolumns, hrows⟩ := h.1 haccepts
    have hmem : row ∈ (T.rows d').filter
        (T.inForce place (place key) period.effectiveFrom) := by
      rw [mem_listed, hrows]
      simp only [RuleTable.key, RuleTable.status, RuleTable.effectiveFrom, RuleTable.effectiveTo,
        hcolumns]
      exact ⟨by simp, trivial, trivial, le_refl _, period.ordered⟩
    have hid : T.id row ∈ ((T.rows d).filter
        (T.inForce place (place key) period.effectiveFrom)).map T.id := by
      rw [← hkept _ _ (not_le.1 hpast)]
      exact List.mem_map_of_mem hmem
    obtain ⟨r, hr, hsame⟩ := List.mem_map.1 hid
    refine haccepts.2.2 r (List.mem_of_mem_filter hr) (hsame.trans ?_)
    simp [RuleTable.id, hcolumns]
  · intro hlater
    by_cases haccepts : T.Accepts d l key period amount
    · have hlater := hlater haccepts
      obtain ⟨row, hcolumns, hrows⟩ := h.1 haccepts
      refine pastKept_of_map hrows (T.id_cut period _) (fun asked on hon r hr => ?_)
        fun asked on hon r hr => ?_
      · by_cases hcut : (T.current (T.listForKey d key) period).any (T.id · = T.id r) = true
        · obtain ⟨c, hc, hsame⟩ := (Option.any_eq_true _ _).1 hcut
          obtain ⟨hmem, hopen⟩ := mem_of_mem_current T hc
          obtain rfl : c = r := hd.keyed.eq_of_key_eq (List.mem_of_mem_filter hmem) hr
            (of_decide_eq_true hsame)
          have hon' : on < period.effectiveFrom := lt_of_lt_of_le hon hlater
          simp [inForce, effective, endBeside, hcut, hopen, hon']
        · simp [inForce, endBeside, hcut]
      · obtain rfl := List.mem_singleton.1 hr
        have hon' : ¬ period.effectiveFrom ≤ on := not_le.2 (lt_of_lt_of_le hon hlater)
        simp [inForce, effective, RuleTable.effectiveFrom, hcolumns, hon']
    · rw [h.2 haccepts]
      exact fun asked on _ => rfl

omit [DecidableEq κ] in
/-- The past is kept if a version that is retired starts later. -/
lemma pastKept_retire_iff {id : ℕ} {l : Session} (hd : T.Ordered d) :
    T.PastKept place d ((T.retire id today).commit l d) today ↔ T.StartsLater d id today := by
  rcases rows_retire id today l hd.keyed with
    ⟨hrows, hdisabled⟩ | ⟨row, hrow, hid, hactive, hrows⟩
  · refine iff_of_true (fun asked on _ => by rw [hrows]) fun r hr hid hactive => ?_
    rw [hdisabled r hr hid] at hactive
    cases hactive
  · constructor
    · intro hkept r hr hrid hractive
      obtain rfl : r = row := hd.keyed.eq_of_key_eq hr hrow (hrid.trans hid.symm)
      by_contra hpast
      have hmem : id ∈ ((T.rows d).filter
          (T.inForce place (place (T.key r)) (T.effectiveFrom r))).map T.id :=
        List.mem_map.2 ⟨r, mem_listed.2 ⟨hr, rfl, hactive, le_refl _, hd.ordered r hr⟩, hid⟩
      rw [← hkept _ _ (not_le.1 hpast)] at hmem
      obtain ⟨s, hs, hsid⟩ := List.mem_map.1 hmem
      obtain ⟨hs, -, hsactive, -⟩ := mem_listed.1 hs
      rw [hrows] at hs
      obtain ⟨old, -, rfl⟩ := mem_alter.1 hs
      by_cases hold : T.id old = id
      · simp [hold] at hsactive
      · simp [hold] at hsid
    · intro hlater
      have hlater := hlater row hrow hid hactive
      rw [alter, ← List.append_nil (List.map _ _)] at hrows
      refine pastKept_of_map hrows (fun r => by split_ifs <;> simp) (fun asked on hon r hr => ?_)
        fun _ _ _ _ h => by cases h
      by_cases hsame : T.id r = id
      · obtain rfl : r = row := hd.keyed.eq_of_key_eq hr hrow (hsame.trans hid.symm)
        have hon' : ¬ T.effectiveFrom r ≤ on := not_le.2 (lt_of_lt_of_le hon hlater)
        simp [hsame, inForce, effective, hon']
      · simp [hsame]

/-! ### Runs -/

lemma Ordered.create {key : κ} {period : Period} {amount : Except ServiceError ℚ} {l : Session}
    (hd : T.Ordered d) (h : T.Leaves d l key period amount d') : T.Ordered d' := by
  by_cases haccepts : T.Accepts d l key period amount
  · obtain ⟨row, hcolumns, hrows⟩ := h.1 haccepts
    have hid : T.id row = l.ids 0 := by simp [RuleTable.id, hcolumns]
    constructor
    · rw [hrows]
      apply (hd.keyed.map_of fun r _ => T.id_cut period _ r).append_singleton
      intro s hs
      obtain ⟨r, hr, rfl⟩ := List.mem_map.1 hs
      rw [T.id_cut, hid]
      exact haccepts.2.2 r hr
    · intro s hs finish hfinish
      rw [hrows, List.mem_append, List.mem_singleton] at hs
      rcases hs with hs | rfl
      · obtain ⟨r, hr, rfl⟩ := List.mem_map.1 hs
        rw [T.effectiveFrom_cut]
        rw [T.effectiveTo_cut, endBeside] at hfinish
        split_ifs at hfinish with hcut
        · -- the version that is cut short starts earlier than the new one
          obtain ⟨c, hc, hsame⟩ := (Option.any_eq_true _ _).1 hcut
          obtain ⟨hmem, -⟩ := mem_of_mem_current T hc
          obtain rfl : c = r := hd.keyed.eq_of_key_eq (List.mem_of_mem_filter hmem) hr
            (of_decide_eq_true hsame)
          obtain rfl := Option.some.inj hfinish
          exact lt_of_mem_current T hc
        · exact hd.ordered r hr finish hfinish
      · simp only [RuleTable.effectiveFrom, RuleTable.effectiveTo, hcolumns] at hfinish ⊢
        exact period.ordered finish hfinish
  · rw [h.2 haccepts]
    exact hd

omit [DecidableEq κ] in
lemma Ordered.retire {id : ℕ} {l : Session} (hd : T.Ordered d) :
    T.Ordered ((T.retire id today).commit l d) := by
  rcases rows_retire id today l hd.keyed with
    ⟨hrows, -⟩ | ⟨row, hrow, hid, -, hrows⟩
  · exact ⟨by rw [hrows]; exact hd.keyed, by rw [hrows]; exact hd.ordered⟩
  · constructor
    · rw [hrows]
      exact hd.keyed.alter (T.id_retired row today)
    · intro s hs finish hfinish
      rw [hrows] at hs
      obtain ⟨r, hr, rfl⟩ := mem_alter.1 hs
      split_ifs at hfinish ⊢ with hsame
      · obtain rfl : r = row := hd.keyed.eq_of_key_eq hr hrow (hsame.trans hid.symm)
        rw [T.effectiveFrom_retired]
        rw [T.effectiveTo_retired] at hfinish
        obtain rfl := Option.some.inj hfinish
        exact lt_retireEnd _ _ _
      · exact hd.ordered r hr finish hfinish

end RuleTable

/-! ### Histories -/

/-- The day on which a request is carried out. -/
def TaxRequest.day : TaxRequest → Day
  | create _ now => utcDay now
  | retire _ today => today

/-- The request is refused, or the version it is about starts no earlier than on its day. -/
def TaxRequest.LooksAhead (d : Db) (l : Session) : TaxRequest → Prop
  | create payload now =>
    Text.strip payload.source ≠ "" →
      TaxRuleService.rules.Accepts d l payload.key payload.period
        (percentToFraction payload.rate) → utcDay now ≤ payload.period.effectiveFrom
  | retire ruleId today => TaxRuleService.rules.StartsLater d ruleId today

/-- The tables after some requests, one after the other, each with its session. -/
def taxHistory (d : Db) (requests : List (TaxRequest × Session)) : Db :=
  requests.foldl (fun d r => r.1.work.commit r.2 d) d

/-- The day on which a request is carried out. -/
def FeeRequest.day : FeeRequest → Day
  | create _ now => utcDay now
  | retire _ today => today

/-- The request is refused, or the version it is about starts no earlier than on its day. -/
def FeeRequest.LooksAhead (d : Db) (l : Session) : FeeRequest → Prop
  | create payload now =>
    fees.Accepts d l payload.key payload.period (feeAmount payload) →
      utcDay now ≤ payload.period.effectiveFrom
  | retire feeId today => fees.StartsLater d feeId today

/-- The tables after some requests, one after the other, each with its session. -/
def feeHistory (d : Db) (requests : List (FeeRequest × Session)) : Db :=
  requests.foldl (fun d r => r.1.work.commit r.2 d) d

section requests

variable {d : Db} {l : Session}

lemma TaxRequest.pastKept_iff (hd : TaxRuleService.rules.Ordered d) (r : TaxRequest) :
    TaxRuleService.rules.PastKept TaxKey.country d (r.work.commit l d) r.day ↔
      r.LooksAhead d l := by
  cases r with
  | create payload now =>
    simp only [work, day, LooksAhead, TaxRuleService.create]
    split_ifs with hblank
    · exact iff_of_true (fun asked on _ => rfl) fun h => absurd hblank h
    · rw [RuleTable.pastKept_create_iff hd (RuleTable.leaves_create fun _ _ _ => rfl)]
      exact ⟨fun h _ => h, fun h => h hblank⟩
  | retire ruleId today => exact RuleTable.pastKept_retire_iff hd

lemma TaxRequest.ordered (hd : TaxRuleService.rules.Ordered d) (r : TaxRequest) :
    TaxRuleService.rules.Ordered (r.work.commit l d) := by
  cases r with
  | create payload now =>
    simp only [work, TaxRuleService.create]
    split_ifs
    · exact hd
    · exact hd.create (RuleTable.leaves_create fun _ _ _ => rfl)
  | retire ruleId today => exact hd.retire

lemma FeeRequest.pastKept_iff (hd : fees.Ordered d) (r : FeeRequest) :
    fees.PastKept FeeKey.market d (r.work.commit l d) r.day ↔ r.LooksAhead d l := by
  cases r with
  | create payload now =>
    exact RuleTable.pastKept_create_iff hd (RuleTable.leaves_create fun _ _ _ => rfl)
  | retire feeId today => exact RuleTable.pastKept_retire_iff hd

lemma FeeRequest.ordered (hd : fees.Ordered d) (r : FeeRequest) :
    fees.Ordered (r.work.commit l d) := by
  cases r with
  | create payload now => exact hd.create (RuleTable.leaves_create fun _ _ _ => rfl)
  | retire feeId today => exact hd.retire

theorem ordered_taxHistory (hd : TaxRuleService.rules.Ordered d)
    (requests : List (TaxRequest × Session)) :
    TaxRuleService.rules.Ordered (taxHistory d requests) := by
  induction requests generalizing d with
  | nil => exact hd
  | cons r rest ih => exact ih (r.1.ordered hd)

theorem ordered_feeHistory (hd : fees.Ordered d) (requests : List (FeeRequest × Session)) :
    fees.Ordered (feeHistory d requests) := by
  induction requests generalizing d with
  | nil => exact hd
  | cons r rest ih => exact ih (r.1.ordered hd)

end requests

/-- **The rules of the past.** After any requests, the next one leaves what is listed for the days
before it as it was just if it is refused or its version starts no earlier. -/
theorem past_kept_iff {d : Db} (htax : TaxRuleService.rules.Ordered d) (hfees : fees.Ordered d)
    (before : List (TaxRequest × Session)) (beforeFee : List (FeeRequest × Session))
    (tax : TaxRequest) (fee : FeeRequest) (l : Session) :
    ((∀ country on, on < tax.day →
      (TaxRuleService.listEffective (taxHistory d (before ++ [(tax, l)])) country on).map
          CountryTaxRule.id =
        (TaxRuleService.listEffective (taxHistory d before) country on).map CountryTaxRule.id) ↔
      tax.LooksAhead (taxHistory d before) l) ∧
    ((∀ market on, on < fee.day →
      (listEffectiveFees (feeHistory d (beforeFee ++ [(fee, l)])) market on).map LandedCostFee.id =
        (listEffectiveFees (feeHistory d beforeFee) market on).map LandedCostFee.id) ↔
      fee.LooksAhead (feeHistory d beforeFee) l) := by
  constructor
  · rw [taxHistory, List.foldl_append]
    exact tax.pastKept_iff (ordered_taxHistory htax before)
  · rw [feeHistory, List.foldl_append]
    exact fee.pastKept_iff (ordered_feeHistory hfees beforeFee)

/-! ### A rate retired on the fifth day -/

def someWorker : Session := { ids := fun n => n + 10 }

lemma ordered_oneRate : TaxRuleService.rules.Ordered oneRate := by
  have hrows : TaxRuleService.rules.rows oneRate = [openRate] := rfl
  refine ⟨separate_oneRate.keyed, fun r hr finish hfinish => ?_⟩
  rw [hrows, List.mem_singleton] at hr
  subst hr
  cases hfinish

theorem past_kept_iff_oneRate :
    ((∀ country on, on < (TaxRequest.retire 1 5).day →
      (TaxRuleService.listEffective (taxHistory oneRate ([] ++ [(.retire 1 5, someWorker)]))
          country on).map CountryTaxRule.id =
        (TaxRuleService.listEffective (taxHistory oneRate []) country on).map
          CountryTaxRule.id) ↔
      (TaxRequest.retire 1 5).LooksAhead (taxHistory oneRate []) someWorker) ∧
    ((∀ market on, on < (FeeRequest.retire 1 5).day →
      (listEffectiveFees (feeHistory oneRate ([] ++ [(.retire 1 5, someWorker)])) market on).map
          LandedCostFee.id =
        (listEffectiveFees (feeHistory oneRate []) market on).map LandedCostFee.id) ↔
      (FeeRequest.retire 1 5).LooksAhead (feeHistory oneRate []) someWorker) :=
  past_kept_iff ordered_oneRate ⟨List.nodup_nil, fun _ hr => absurd hr List.not_mem_nil⟩ [] []
    (.retire 1 5) (.retire 1 5) someWorker

/-- The rate was in force on the second day, and after it is retired on the fifth it is not listed
for the second any more. -/
theorem not_past_kept_oneRate :
    ¬ ∀ country on, on < (TaxRequest.retire 1 5).day →
      (TaxRuleService.listEffective (taxHistory oneRate [(.retire 1 5, someWorker)]) country
          on).map CountryTaxRule.id =
        (TaxRuleService.listEffective oneRate country on).map CountryTaxRule.id := by
  intro h
  exact absurd (h "DE" 2 (by decide)) (by decide +kernel)

end CrossPilot
