import CrossPilot.Compliance.Alerts

/-!
# Every window gets its notice

For tax rules the scans record exactly one notice for each window that a scan has met. For certificates
they do so exactly if one of the scans in the window has the certificate among those it looks at: the
first ones to expire, with the expired ones before all others, of products that are not deleted.
-/

namespace CrossPilot.Compliance

/-- The days before a due date that belong to a level. -/
def DayWindow : NoticeKind → AlertLevel → ℤ → Prop
  | _, .d7, days => 0 ≤ days ∧ days ≤ 7
  | .certExpiry, .d30, days => 7 < days ∧ days ≤ 30
  | .certExpiry, .d60, days => 30 < days ∧ days ≤ 60
  | _, _, _ => False

lemma taxWindow_eq_some_iff {due today : Day} {level : AlertLevel} :
    taxWindow due today = some level ↔ DayWindow .taxEffective level (due - today) := by
  cases level with
  | d7 => simp [taxWindow, DayWindow]
  | _ => simp [taxWindow, DayWindow]

lemma certWindow_eq_some_iff {due today : Day} {level : AlertLevel} (h : level ≠ .expired) :
    certWindow due today = some level ↔ DayWindow .certExpiry level (due - today) := by
  cases level with
  | d60 =>
    simp only [certWindow, DayWindow]
    split_ifs <;> simp <;> omega
  | d30 =>
    simp only [certWindow, DayWindow]
    split_ifs <;> simp <;> omega
  | d7 =>
    simp only [certWindow, DayWindow]
    split_ifs <;> simp <;> omega
  | expired => exact absurd rfl h

lemma DayWindow.ne_expired {kind : NoticeKind} {level : AlertLevel} {days : ℤ}
    (h : DayWindow kind level days) : level ≠ .expired := by
  rintro rfl
  cases kind <;> exact h

/-! ### Recording -/

/-- There is a notice for a key. -/
def Noted (key : NoticeKey) (notices : List ComplianceNotice) : Prop := ∃ n ∈ notices, n.key = key

/-- One turn of the loop keeps the keys apart, and adds the key of the window unless it has expired. -/
lemma record_spec (recipient : String) {s : List ComplianceNotice × ℕ} (w : NoticeKey × String)
    (hk : Table.Keyed ComplianceNotice.key s.1) :
    Table.Keyed ComplianceNotice.key (record recipient s w).1 ∧
      ∀ key, Noted key (record recipient s w).1 ↔
        Noted key s.1 ∨ key.level ≠ .expired ∧ w.1 = key := by
  by_cases hexpired : w.1.level = .expired
  · refine ⟨by simpa [record, hexpired] using hk, ?_⟩
    intro key
    simp only [record, hexpired, if_true]
    constructor
    · exact .inl
    · rintro (h | ⟨hne, rfl⟩)
      · exact h
      · exact absurd hexpired hne
  · cases hfind : s.1.find? fun n => n.key = w.1 with
    | some n =>
      obtain ⟨hmem, hkey⟩ := (Table.find?_eq_some_iff hk).mp hfind
      refine ⟨by simpa [record, hexpired, hfind] using hk, ?_⟩
      intro key
      simp only [record, hexpired, if_false, hfind, Option.isSome_some, if_true]
      constructor
      · exact .inl
      · rintro (h | ⟨-, rfl⟩)
        · exact h
        · exact ⟨n, hmem, hkey⟩
    | none =>
      have hnew : ∀ n ∈ s.1, n.key ≠ w.1 := by
        intro n hn
        simpa using List.find?_eq_none.mp hfind n hn
      constructor
      · simp only [record, hexpired, if_false, hfind, Option.isSome_none, Bool.false_eq_true]
        exact hk.append_singleton hnew
      · intro key
        simp only [record, hexpired, if_false, hfind, Option.isSome_none, Bool.false_eq_true, Noted,
          List.mem_append, List.mem_singleton]
        constructor
        · rintro ⟨n, hn | rfl, rfl⟩
          · exact .inl ⟨n, hn, rfl⟩
          · exact .inr ⟨hexpired, rfl⟩
        · rintro (⟨n, hn, rfl⟩ | ⟨-, rfl⟩)
          · exact ⟨n, .inl hn, rfl⟩
          · exact ⟨_, .inr rfl, rfl⟩

/-- The loop adds the keys of all windows that have not expired. -/
lemma foldl_record_spec (recipient : String) (ws : List (NoticeKey × String))
    {s : List ComplianceNotice × ℕ} (hk : Table.Keyed ComplianceNotice.key s.1) :
    Table.Keyed ComplianceNotice.key (ws.foldl (record recipient) s).1 ∧
      ∀ key, Noted key (ws.foldl (record recipient) s).1 ↔
        Noted key s.1 ∨ key.level ≠ .expired ∧ ∃ w ∈ ws, w.1 = key := by
  induction ws generalizing s with
  | nil => simpa using hk
  | cons w rest ih =>
    obtain ⟨hone, hadded⟩ := record_spec recipient w hk
    obtain ⟨hall, hmore⟩ := ih hone
    refine ⟨hall, ?_⟩
    intro key
    rw [List.foldl_cons, hmore, hadded, or_assoc, ← and_or_left]
    simp only [List.mem_cons, exists_eq_or_imp]

section

variable {isoformat : Day → String}

lemma noticesAfter_concat (scans : List Scan) (s : Scan) :
    noticesAfter isoformat (scans ++ [s]) =
      (dispatch isoformat s.recipient s.tables s.today (noticesAfter isoformat scans)).1 := by
  simp [noticesAfter]

/-- After a run the notices are those of the windows its scans have met, each once. -/
theorem noticesAfter_spec (isoformat : Day → String) (scans : List Scan) :
    Table.Keyed ComplianceNotice.key (noticesAfter isoformat scans) ∧
      ∀ key, Noted key (noticesAfter isoformat scans) ↔
        key.level ≠ .expired ∧
          ∃ s ∈ scans, ∃ w ∈ windows isoformat s.tables s.today, w.1 = key := by
  induction scans using List.reverseRecOn with
  | nil => simp [noticesAfter, Noted, Table.Keyed]
  | append_singleton scans s ih =>
    obtain ⟨hk, hnoted⟩ := ih
    rw [noticesAfter_concat]
    obtain ⟨hone, hadded⟩ :=
      foldl_record_spec s.recipient (windows isoformat s.tables s.today)
        (s := (noticesAfter isoformat scans, 0)) hk
    refine ⟨hone, ?_⟩
    intro key
    rw [dispatch, hadded, hnoted, ← and_or_left]
    simp only [List.mem_append, List.mem_singleton, or_and_right, exists_or, exists_eq_left]

/-! ### What a scan meets -/

/-- A rule's windows: those of every active rule. -/
lemma mem_windows_rule {s : Scan} {level : AlertLevel} {refId : ℕ} {due : Day} :
    (∃ w ∈ windows isoformat s.tables s.today, w.1 = ⟨.taxEffective, level, refId, due⟩) ↔
      DayWindow .taxEffective level (due - s.today) ∧
        ∃ r ∈ s.tables.rules, r.status = .active ∧ r.id = refId ∧ r.effectiveFrom = due := by
  constructor
  · rintro ⟨w, hw, hkey⟩
    rcases List.mem_append.mp hw with hw | hw
    · obtain ⟨r, hr, hwr⟩ := List.mem_filterMap.mp hw
      obtain ⟨level', hlevel, rfl⟩ := Option.map_eq_some_iff.mp hwr
      obtain ⟨hr, hactive⟩ := List.mem_filter.mp hr
      simp only [decide_eq_true_eq] at hactive
      cases hkey
      exact ⟨taxWindow_eq_some_iff.mp hlevel, r, hr, hactive.1, rfl, rfl⟩
    · obtain ⟨c, -, hwc⟩ := List.mem_filterMap.mp hw
      obtain ⟨level', -, rfl⟩ := Option.map_eq_some_iff.mp hwc
      cases hkey
  · rintro ⟨hwindow, r, hr, hactive, rfl, rfl⟩
    have hlevel := taxWindow_eq_some_iff.mpr hwindow
    have hdays : (0 : ℤ) ≤ r.effectiveFrom - s.today ∧ r.effectiveFrom - s.today ≤ 7 := by
      cases level with
      | d7 => exact hwindow
      | _ => exact hwindow.elim
    have hlisted : r ∈ s.tables.listBecomingEffective s.today (taxHorizon s.today) := by
      apply List.mem_filter.mpr
      refine ⟨hr, ?_⟩
      simp only [hactive, true_and, decide_eq_true_eq, taxHorizon]
      constructor
      · linarith [hdays.1]
      · linarith [hdays.2]
    exact ⟨_, List.mem_append_left _ (List.mem_filterMap.mpr
      ⟨r, hlisted, by rw [ruleWindow, hlevel]; rfl⟩), rfl⟩

/-- A certificate's windows: those of the certificates that are looked at. -/
lemma mem_windows_certificate {s : Scan} {level : AlertLevel} (hl : level ≠ .expired) {refId : ℕ}
    {due : Day} :
    (∃ w ∈ windows isoformat s.tables s.today, w.1 = ⟨.certExpiry, level, refId, due⟩) ↔
      DayWindow .certExpiry level (due - s.today) ∧
        ∃ c ∈ s.tables.listInHorizon (certHorizon s.today) alertLimit,
          c.id = refId ∧ c.expiresAt = due := by
  constructor
  · rintro ⟨w, hw, hkey⟩
    rcases List.mem_append.mp hw with hw | hw
    · obtain ⟨r, -, hwr⟩ := List.mem_filterMap.mp hw
      obtain ⟨level', -, rfl⟩ := Option.map_eq_some_iff.mp hwr
      cases hkey
    · obtain ⟨c, hc, hwc⟩ := List.mem_filterMap.mp hw
      obtain ⟨level', hlevel, rfl⟩ := Option.map_eq_some_iff.mp hwc
      cases hkey
      exact ⟨(certWindow_eq_some_iff hl).mp hlevel, c, hc, rfl, rfl⟩
  · rintro ⟨hwindow, c, hc, rfl, rfl⟩
    have hlevel := (certWindow_eq_some_iff hl).mpr hwindow
    exact ⟨_, List.mem_append_right _ (List.mem_filterMap.mpr
      ⟨c, hc, by rw [certificateWindow, hlevel]; rfl⟩), rfl⟩

end

/-! ### Exactly one -/

/-- There is exactly one notice for a key. -/
def Once (key : NoticeKey) (notices : List ComplianceNotice) : Prop :=
  (notices.filter fun n => n.key = key).length = 1

lemma once_iff_noted {notices : List ComplianceNotice}
    (hk : Table.Keyed ComplianceNotice.key notices) (key : NoticeKey) :
    Once key notices ↔ Noted key notices := by
  constructor
  · intro h
    obtain ⟨n, hn⟩ := List.length_eq_one_iff.mp h
    have hmem : n ∈ notices.filter fun n => n.key = key := by simp [hn]
    obtain ⟨hmem, hkey⟩ := List.mem_filter.mp hmem
    exact ⟨n, hmem, by simpa using hkey⟩
  · rintro ⟨n, hn, rfl⟩
    rw [Once, hk.filter_eq_singleton hn]
    · rfl
    · simp
    · intro m _ hm
      simpa using hm

/-- Every rule in force and every certificate that a scan has met in a window has its one notice. -/
def Complete (isoformat : Day → String) (scans : List Scan) : Prop :=
  ∀ s ∈ scans,
    (∀ r ∈ s.tables.rules, r.status = .active → ∀ level,
      DayWindow .taxEffective level (r.effectiveFrom - s.today) →
        Once ⟨.taxEffective, level, r.id, r.effectiveFrom⟩ (noticesAfter isoformat scans)) ∧
    (∀ c ∈ s.tables.certificates, ∀ level,
      DayWindow .certExpiry level (c.expiresAt - s.today) →
        Once ⟨.certExpiry, level, c.id, c.expiresAt⟩ (noticesAfter isoformat scans))

/-- The notices are complete exactly if, for each certificate met in a window, some scan in the window
has it, with the same due date, among the certificates it looks at. -/
theorem complete_iff (isoformat : Day → String) (scans : List Scan) :
    Complete isoformat scans ↔
      ∀ s ∈ scans, ∀ c ∈ s.tables.certificates, ∀ level,
        DayWindow .certExpiry level (c.expiresAt - s.today) →
        ∃ s' ∈ scans, DayWindow .certExpiry level (c.expiresAt - s'.today) ∧
          ∃ c' ∈ s'.tables.listInHorizon (certHorizon s'.today) alertLimit,
            c'.id = c.id ∧ c'.expiresAt = c.expiresAt := by
  obtain ⟨hk, hnoted⟩ := noticesAfter_spec isoformat scans
  have certificate_once {level : AlertLevel} (hl : level ≠ .expired) (c : ComplianceCertificate) :
      Once ⟨.certExpiry, level, c.id, c.expiresAt⟩ (noticesAfter isoformat scans) ↔
        ∃ s' ∈ scans, DayWindow .certExpiry level (c.expiresAt - s'.today) ∧
          ∃ c' ∈ s'.tables.listInHorizon (certHorizon s'.today) alertLimit,
            c'.id = c.id ∧ c'.expiresAt = c.expiresAt := by
    rw [once_iff_noted hk, hnoted]
    simp only [mem_windows_certificate hl]
    exact and_iff_right hl
  constructor
  · intro h s hs c hc level hwindow
    exact (certificate_once hwindow.ne_expired c).mp ((h s hs).2 c hc level hwindow)
  · intro h s hs
    constructor
    · intro r hr hactive level hwindow
      rw [once_iff_noted hk, hnoted]
      exact ⟨hwindow.ne_expired, s, hs, mem_windows_rule.mpr ⟨hwindow, r, hr, hactive, rfl, rfl⟩⟩
    · intro c hc level hwindow
      exact (certificate_once hwindow.ne_expired c).mpr (h s hs c hc level hwindow)

/-- Two hundred certificates that expired on day 0, and one that expires on day 105. -/
def crowdedTables : Tables where
  rules := []
  certificates := (List.range 201).map fun i =>
    ⟨i, 1, "US", "FCC", toString i, if i < 200 then 0 else 105⟩
  skus := [⟨1, false⟩]
  rules_keyed := by simp [Table.Keyed]
  certificates_keyed := by
    rw [Table.Keyed, List.map_map]
    simpa [Function.comp_def] using List.nodup_range

/-- On day 100 nothing is noted. -/
theorem not_complete_crowded : ¬ Complete toString [⟨100, crowdedTables, "ops@example.com"⟩] := by
  intro h
  have hone := (h _ (List.mem_singleton_self _)).2 ⟨200, 1, "US", "FCC", "200", 105⟩
    (by decide +kernel) .d7 (by constructor <;> decide)
  revert hone
  unfold Once
  decide +kernel

end CrossPilot.Compliance
