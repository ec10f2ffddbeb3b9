import CrossPilot.Finance.Materialize

/-!
# What a materialization leaves

`materialize` writes a row for each group of order lines and never removes one. The daily profits
of a range of days are those of the order lines that fall on these days now, unless a row is left
of a group whose lines have all gone.
-/

namespace CrossPilot

open Transaction Table Groups LandedCost Profit

namespace ProfitService

/-- The groups of the order lines that now fall on the days asked for. -/
def currentGroups (d : Db) (req : MaterializeRequest) : List (ProfitKey × List ProfitSourceLine) :=
  groups lineKey (SkuProfitRepository.orderLines d req.dateFrom req.dateTo)

/-- The row that the lines of a group come to. -/
def groupRow (d : Db) (req : MaterializeRequest) (id : ℕ)
    (group : ProfitKey × List ProfitSourceLine) : SkuProfitDaily :=
  dailyRow id group.1 req.bookCurrency (group.2.map ProfitSourceLine.quantity).sum
    (rolled d req group.1 group.2)

/-- The daily profits in order: ids and keys are unique, and no row has an id yet to be drawn. -/
structure ProfitsWf (s : WorkState) : Prop where
  profit_keyed : Keyed SkuProfitDaily.id s.data.profits
  key_unique : Keyed SkuProfitDaily.key s.data.profits
  ids_injective : Function.Injective s.session.ids
  ids_unused : ∀ n, ∀ row ∈ s.data.profits, row.id ≠ s.session.ids n

@[simp] lemma dailyRow_id (id : ℕ) (key : ProfitKey) (book : String) (quantity : ℤ)
    (rolled : DailyRollup) : (dailyRow id key book quantity rolled).id = id := rfl

@[simp] lemma dailyRow_key (id : ℕ) (key : ProfitKey) (book : String) (quantity : ℤ)
    (rolled : DailyRollup) : (dailyRow id key book quantity rolled).key = key := rfl

/-- The cost rules, rates and order lines do not depend on the daily profits. -/
lemma groupRow_profits (d : Db) (req : MaterializeRequest) (id : ℕ)
    (group : ProfitKey × List ProfitSourceLine) (profits : List SkuProfitDaily) :
    groupRow { d with profits := profits } req id group = groupRow d req id group := rfl

lemma currentGroups_profits (d : Db) (req : MaterializeRequest) (profits : List SkuProfitDaily) :
    currentGroups { d with profits := profits } req = currentGroups d req := rfl

section Saving

variable {s : WorkState} {E : ServiceError → WorkState → Prop}

/-- A row is written over, or added under a new id. -/
lemma wp_saveDaily (hwf : ProfitsWf s) (key : ProfitKey) (book : String) (quantity : ℤ)
    (rolled : DailyRollup) :
    (saveDaily key book quantity rolled).wp (fun _ s' => ProfitsWf s' ∧ ∃ id,
      s'.data = { s.data with
        profits := put SkuProfitDaily.key (dailyRow id key book quantity rolled) s.data.profits })
      (fun _ _ => True) s := by
  simp only [saveDaily, Prog.bind_eq, Prog.wp_bind, Prog.wp_select, SkuProfitRepository.getKey]
  cases hfind : s.data.profits.find? fun row => row.key = key with
  | none =>
    have hnew : ∀ row ∈ s.data.profits, row.key ≠ key := by
      simpa using List.find?_eq_none.mp hfind
    simp only [Prog.wp_bind, wp_nextSnowflakeId]
    split
    · trivial
    · simp only [Prog.wp_insert]
      refine ⟨⟨?_, ?_, ?_, ?_⟩, s.session.ids 0, ?_⟩
      · exact hwf.profit_keyed.append_singleton (hwf.ids_unused 0)
      · exact hwf.key_unique.append_singleton hnew
      · intro m n hmn
        simpa using hwf.ids_injective hmn
      · intro n row hrow
        obtain hrow | hrow := List.mem_append.mp hrow
        · exact hwf.ids_unused (n + 1) row hrow
        · rw [List.mem_singleton.mp hrow, dailyRow_id]
          intro hsame
          exact absurd (hwf.ids_injective hsame) (by simp)
      · rw [put_of_forall_ne hnew]
  | some row =>
    obtain ⟨hrow, rfl⟩ := (find?_eq_some_iff hwf.key_unique).mp hfind
    simp only
    split
    · trivial
    · simp only [Prog.wp_update]
      refine ⟨⟨?_, ?_, hwf.ids_injective, ?_⟩, row.id, ?_⟩
      · exact hwf.profit_keyed.alter fun _ => rfl
      · exact hwf.key_unique.alter fun _ => rfl
      · intro n changed hchanged
        obtain ⟨old, hold, rfl⟩ := mem_alter.mp hchanged
        have hid : (if old.id = row.id then dailyRow old.id old.key book quantity rolled
            else old).id = old.id := by
          split_ifs <;> rfl
        rw [hid]
        exact hwf.ids_unused n old hold
      · rw [alter_eq_put hwf.profit_keyed hwf.key_unique hrow rfl]

/-- What writing the rows of some groups leaves. -/
structure Wrote (req : MaterializeRequest) (groups : List (ProfitKey × List ProfitSourceLine))
    (s s' : WorkState) : Prop where
  frame : s'.data = { s.data with profits := s'.data.profits }
  wf : ProfitsWf s'
  origin : ∀ row ∈ s'.data.profits, (∃ group ∈ groups, row = groupRow s.data req row.id group) ∨
    row ∈ s.data.profits ∧ ∀ group ∈ groups, row.key ≠ group.1
  stays : ∀ row ∈ s.data.profits, (∀ group ∈ groups, row.key ≠ group.1) → row ∈ s'.data.profits
  present : ∀ group ∈ groups, ∃ id, groupRow s.data req id group ∈ s'.data.profits

lemma wp_saveAll {req : MaterializeRequest} {groups : List (ProfitKey × List ProfitSourceLine)}
    (hkeys : (groups.map Prod.fst).Nodup) (hwf : ProfitsWf s) :
    (saveAll req groups).wp (fun _ s' => Wrote req groups s s') (fun _ _ => True) s := by
  induction groups generalizing s with
  | nil =>
    simp only [saveAll, Prog.pure_eq, Prog.wp_ret]
    exact ⟨rfl, hwf, fun row hrow => .inr ⟨hrow, by simp⟩, fun row hrow _ => hrow, by simp⟩
  | cons group rest ih =>
    obtain ⟨hnotin, hrest⟩ := List.nodup_cons.mp hkeys
    have hne : ∀ other ∈ rest, group.1 ≠ other.1 := by
      intro other hother heq
      exact hnotin (heq ▸ List.mem_map_of_mem hother)
    simp only [saveAll, Prog.bind_eq, Prog.wp_bind, Prog.wp_select, Prog.pure_eq, Prog.wp_ret]
    apply Prog.wp_mono (wp_saveDaily hwf _ _ _ _) ?_ fun _ _ _ => trivial
    rintro _ s₁ ⟨hwf₁, id, hdata⟩
    apply Prog.wp_mono (ih hrest hwf₁) ?_ fun _ _ _ => trivial
    intro _ s₂ hwrote
    -- the first row, which no later group touches
    have hfirst : ∀ row, row ∈ s₁.data.profits ↔
        row = groupRow s.data req id group ∨ row ∈ s.data.profits ∧ row.key ≠ group.1 := by
      intro row
      rw [hdata]
      exact mem_put
    have hsame (i : ℕ) (g) : groupRow s₁.data req i g = groupRow s.data req i g := by
      rw [hdata, groupRow_profits]
    refine ⟨?_, hwrote.wf, ?_, ?_, ?_⟩
    · rw [hwrote.frame, hdata]
    · intro row hrow
      obtain ⟨other, hother, hrow⟩ | ⟨hrow, hothers⟩ := hwrote.origin row hrow
      · exact .inl ⟨other, List.mem_cons_of_mem group hother, hsame _ _ ▸ hrow⟩
      · obtain rfl | ⟨hrow, hkey⟩ := (hfirst row).mp hrow
        · exact .inl ⟨group, by simp, rfl⟩
        · exact .inr ⟨hrow, List.forall_mem_cons.mpr ⟨hkey, hothers⟩⟩
    · intro row hrow hothers
      obtain ⟨hkey, hothers⟩ := List.forall_mem_cons.mp hothers
      exact hwrote.stays row ((hfirst row).mpr (.inr ⟨hrow, hkey⟩)) hothers
    · intro other hother
      obtain rfl | hother := List.mem_cons.mp hother
      · refine ⟨id, hwrote.stays _ ((hfirst _).mpr (.inl rfl)) ?_⟩
        exact hne
      · obtain ⟨i, hrow⟩ := hwrote.present other hother
        exact ⟨i, hsame i other ▸ hrow⟩

/-- A materialization writes the rows of the current groups. -/
lemma wp_materialize (req : MaterializeRequest) (hwf : ProfitsWf s) :
    (materialize req).wp (fun _ s' => Wrote req (currentGroups s.data req) s s')
      (fun _ _ => True) s := by
  simp only [materialize, Prog.bind_eq, Prog.wp_bind, Prog.wp_select, Prog.pure_eq, Prog.wp_ret]
  exact wp_saveAll nodup_groups hwf

/-! ### A second run -/

/-- What no end of a run changes. -/
def Unchanged (d : Db) (s : WorkState) : Prop := s.data = d

lemma wp_saveDaily_again {key : ProfitKey} {book : String} {quantity : ℤ} {rolled : DailyRollup}
    (hkeyed : Keyed SkuProfitDaily.id s.data.profits)
    (hunique : Keyed SkuProfitDaily.key s.data.profits) {id : ℕ}
    (hrow : dailyRow id key book quantity rolled ∈ s.data.profits) :
    (saveDaily key book quantity rolled).wp (fun _ => Unchanged s.data)
      (fun _ => Unchanged s.data) s := by
  have hfind : SkuProfitRepository.getKey s.data key = some (dailyRow id key book quantity rolled) :=
    (find?_eq_some_iff hunique).mpr ⟨hrow, rfl⟩
  simp only [saveDaily, Prog.bind_eq, Prog.wp_bind, Prog.wp_select, hfind]
  split
  · simp [raise, Unchanged]
  · simp only [Prog.wp_update, Unchanged]
    rw [alter_eq_self]
    intro old hold hid
    rw [hkeyed.eq_of_key_eq hold hrow hid]
    rfl

lemma wp_saveAll_again {req : MaterializeRequest}
    {groups : List (ProfitKey × List ProfitSourceLine)} {d : Db} (hdata : s.data = d)
    (hkeyed : Keyed SkuProfitDaily.id d.profits) (hunique : Keyed SkuProfitDaily.key d.profits)
    (hrows : ∀ group ∈ groups, ∃ id, groupRow d req id group ∈ d.profits) :
    (saveAll req groups).wp (fun _ => Unchanged d) (fun _ => Unchanged d) s := by
  induction groups generalizing s with
  | nil => exact hdata
  | cons group rest ih =>
    subst hdata
    simp only [saveAll, Prog.bind_eq, Prog.wp_bind, Prog.wp_select, Prog.pure_eq, Prog.wp_ret]
    obtain ⟨id, hrow⟩ := hrows group (by simp)
    apply Prog.wp_mono (wp_saveDaily_again hkeyed hunique hrow) ?_ fun _ _ h => h
    intro _ s₁ hsame
    exact ih hsame fun other hother => hrows other (List.mem_cons_of_mem group hother)

end Saving

/-! ### Exactness -/

/-- The day lies in the range asked for. -/
def Covers (req : MaterializeRequest) (day : Day) : Prop := req.dateFrom ≤ day ∧ day ≤ req.dateTo

instance (req : MaterializeRequest) (day : Day) : Decidable (Covers req day) :=
  inferInstanceAs (Decidable (_ ∧ _))

/-- The daily profits of the range are the current groups, each as its lines come to, in one row. -/
structure Exact (req : MaterializeRequest) (d : Db) : Prop where
  no_other : ∀ row ∈ d.profits, Covers req row.statDate →
    ∃ group ∈ currentGroups d req, row = groupRow d req row.id group
  one_each : ∀ group ∈ currentGroups d req, ∃ id,
    d.profits.filter (fun row => row.key = group.1) = [groupRow d req id group]

/-- Order lines still fall under the key of a row. -/
def HasLines (d : Db) (req : MaterializeRequest) (row : SkuProfitDaily) : Prop :=
  ∃ line ∈ SkuProfitRepository.orderLines d req.dateFrom req.dateTo, lineKey line = some row.key

lemma hasLines_iff {d : Db} {req : MaterializeRequest} {row : SkuProfitDaily} :
    HasLines d req row ↔ ∃ group ∈ currentGroups d req, row.key = group.1 := by
  constructor
  · rintro ⟨line, hline, hkey⟩
    exact ⟨(row.key, _), mem_groups.mpr ⟨⟨line, hline, hkey⟩, rfl⟩, rfl⟩
  · rintro ⟨⟨key, lines⟩, hgroup, hkey⟩
    obtain ⟨⟨line, hline, hlineKey⟩, -⟩ := mem_groups.mp hgroup
    exact ⟨line, hline, hlineKey.trans (congrArg some hkey.symm)⟩

section Runs

variable {req : MaterializeRequest} {s s' : WorkState}

lemma Wrote.currentGroups (h : Wrote req (currentGroups s.data req) s s') :
    currentGroups s'.data req = currentGroups s.data req := by
  rw [h.frame, currentGroups_profits]

lemma Wrote.groupRow (h : Wrote req (ProfitService.currentGroups s.data req) s s') (id : ℕ)
    (group : ProfitKey × List ProfitSourceLine) :
    groupRow s'.data req id group = groupRow s.data req id group := by
  rw [h.frame, groupRow_profits]

/-- A materialization is exact if and only if every row of the range still had lines. -/
lemma Wrote.exact_iff (h : Wrote req (ProfitService.currentGroups s.data req) s s') :
    Exact req s'.data ↔ ∀ row ∈ s.data.profits, Covers req row.statDate → HasLines s.data req row := by
  constructor
  · intro hexact row hrow hcovers
    rw [hasLines_iff]
    by_contra hnone
    push Not at hnone
    obtain ⟨group, hgroup, heq⟩ := hexact.no_other row (h.stays row hrow hnone) hcovers
    rw [h.currentGroups] at hgroup
    exact hnone group hgroup (congrArg SkuProfitDaily.key heq)
  · intro hlines
    constructor
    · intro row hrow hcovers
      rw [h.currentGroups]
      obtain ⟨group, hgroup, heq⟩ | ⟨hrow, hnone⟩ := h.origin row hrow
      · exact ⟨group, hgroup, (h.groupRow row.id group).symm ▸ heq⟩
      · obtain ⟨group, hgroup, hkey⟩ := hasLines_iff.mp (hlines row hrow hcovers)
        exact absurd hkey (hnone group hgroup)
    · intro group hgroup
      rw [h.currentGroups] at hgroup
      obtain ⟨id, hrow⟩ := h.present group hgroup
      refine ⟨id, ?_⟩
      rw [h.groupRow]
      apply h.wf.key_unique.filter_eq_singleton hrow
      · simp [ProfitService.groupRow]
      · intro row _ hkey
        simpa [ProfitService.groupRow] using hkey

/-- A second materialization changes nothing, whoever runs it. -/
lemma Wrote.again (h : Wrote req (ProfitService.currentGroups s.data req) s s')
    (session : Session) : (materialize req).commit session s'.data = s'.data := by
  apply Prog.commit_of_wp (R := (· = s'.data))
  simp only [materialize, Prog.bind_eq, Prog.wp_bind, Prog.wp_select, Prog.pure_eq, Prog.wp_ret]
  have hrows : ∀ group ∈ ProfitService.currentGroups s'.data req, ∃ id,
      ProfitService.groupRow s'.data req id group ∈ s'.data.profits := by
    intro group hgroup
    rw [h.currentGroups] at hgroup
    obtain ⟨id, hrow⟩ := h.present group hgroup
    exact ⟨id, (h.groupRow id group).symm ▸ hrow⟩
  exact Prog.wp_mono (wp_saveAll_again rfl h.wf.profit_keyed h.wf.key_unique hrows)
    (fun _ _ h => h) fun _ _ _ => trivial

end Runs

/-! ### Histories -/

/-- Somebody changes the tables other than the daily profits (an order comes in, is paid, is
refunded, a rate is entered), or the profits of some days are computed. -/
inductive Event
  | books (change : Db → Db)
  | materialize (req : MaterializeRequest)

/-- A materialization that fails leaves nothing. -/
def step (s : WorkState) : Event → WorkState
  | .books change => { s with data := { change s.data with profits := s.data.profits } }
  | .materialize req =>
    match (materialize req).exec s with
    | (.ok _, s') => s'
    | (.error _, _) => s

/-- What a history leaves of empty tables. The workers draw one id after the other. -/
def run (ids : ℕ → ℕ) (history : List Event) : WorkState :=
  history.foldl step ⟨{ ids }, {}, []⟩

lemma ProfitsWf.step {s : WorkState} (h : ProfitsWf s) (event : Event) :
    ProfitsWf (ProfitService.step s event) := by
  cases event with
  | books change => exact ⟨h.profit_keyed, h.key_unique, h.ids_injective, h.ids_unused⟩
  | materialize req =>
    have hrun := wp_materialize req h
    simp only [ProfitService.step]
    cases hexec : (materialize req).exec s with
    | mk result s' =>
      cases result with
      | error e => exact h
      | ok view => exact ((Prog.wp_of_exec hexec).mp hrun).wf

lemma profitsWf_run {ids : ℕ → ℕ} (hids : Function.Injective ids) (history : List Event) :
    ProfitsWf (run ids history) := by
  have hstart : ProfitsWf ⟨{ ids }, {}, []⟩ := ⟨.nil, .nil, hids, by simp⟩
  exact List.foldlRecOn history step hstart fun s hs event _ => hs.step event

lemma wrote_of_isOk {s : WorkState} (hwf : ProfitsWf s) {req : MaterializeRequest}
    (hok : ((materialize req).exec s).1.isOk) :
    Wrote req (currentGroups s.data req) s (step s (.materialize req)) := by
  have hrun := wp_materialize req hwf
  simp only [step]
  cases hexec : (materialize req).exec s with
  | mk result s' =>
    rw [hexec] at hok
    cases result with
    | error e => cases hok
    | ok view => exact (Prog.wp_of_exec hexec).mp hrun

/-- After any history, a materialization leaves exactly the current groups of its days, and changes
nothing when it is repeated, if and only if every row of these days still had lines. -/
theorem daily_profits_exact_iff {ids : ℕ → ℕ} (hids : Function.Injective ids)
    (history : List Event) (req : MaterializeRequest)
    (hok : ((materialize req).exec (run ids history)).1.isOk) :
    (Exact req (run ids (history ++ [.materialize req])).data ∧ ∀ session,
      (materialize req).commit session (run ids (history ++ [.materialize req])).data =
        (run ids (history ++ [.materialize req])).data) ↔
      ∀ row ∈ (run ids history).data.profits, Covers req row.statDate →
        HasLines (run ids history).data req row := by
  have hwrote := wrote_of_isOk (profitsWf_run hids history) hok
  have hlast : run ids (history ++ [.materialize req]) =
      step (run ids history) (.materialize req) := by
    simp [run]
  rw [hlast, ← hwrote.exact_iff]
  constructor
  · rintro ⟨hexact, -⟩
    exact hexact
  · intro hexact
    exact ⟨hexact, hwrote.again⟩

instance (d : Db) (req : MaterializeRequest) (row : SkuProfitDaily) :
    Decidable (HasLines d req row) :=
  inferInstanceAs (Decidable (∃ line ∈ _, _))

/-- An order of two pieces, created on the first day. -/
def firstOrder (paidAt : Option Instant) : SalesOrder :=
  { id := 1, shopId := 4, platformCode := "tiktok", platformOrderId := "A", idempotencyKey := "k"
    platformStatus := "UNPAID", unifiedStatus := if paidAt.isSome then .paid else .pending
    currency := "USD", paidAt, createdAt := 86400000000 }

def firstItem : OrderItem :=
  { id := 1, orderId := 1, skuId := some 7, platformSkuId := "", platformProductId := ""
    itemName := "", quantity := 2, unitPrice := 10, currency := "USD" }

/-- The first two days. -/
def firstDays : MaterializeRequest :=
  { market := "US", channel := .air, firstMileMethod := .weight, dateFrom := 1, dateTo := 2
    bookCurrency := "USD" }

/-- The order comes in and the profits of the day are computed. -/
def orderedFirst : List Event :=
  [.books fun d => { d with orders := [firstOrder none], items := [firstItem] },
    .materialize firstDays]

/-- The order is paid the day after. -/
def paidNextDay : List Event :=
  orderedFirst ++ [.books fun d => { d with orders := [firstOrder (some 172800000000)] }]

theorem daily_profits_exact_iff_orderedFirst :
    Function.Injective (fun n : ℕ => n) ∧
    ((materialize firstDays).exec (run (fun n => n) orderedFirst)).1.isOk ∧
    Exact firstDays (run (fun n => n) (orderedFirst ++ [.materialize firstDays])).data := by
  have hids : Function.Injective (fun n : ℕ => n) := fun _ _ h => h
  have hok : ((materialize firstDays).exec (run (fun n => n) orderedFirst)).1.isOk := by
    decide +kernel
  exact ⟨hids, hok, ((daily_profits_exact_iff hids orderedFirst firstDays hok).mpr
    (by decide +kernel)).1⟩

/-- The order now falls on the day after, and its row of the day before stays. -/
theorem not_exact_paidNextDay :
    ¬ ∀ (ids : ℕ → ℕ) (history : List Event) (req : MaterializeRequest),
      Function.Injective ids → ((materialize req).exec (run ids history)).1.isOk →
        Exact req (run ids (history ++ [.materialize req])).data ∧ ∀ session,
          (materialize req).commit session (run ids (history ++ [.materialize req])).data =
            (run ids (history ++ [.materialize req])).data := by
  intro hall
  have hids : Function.Injective (fun n : ℕ => n) := fun _ _ h => h
  have hok : ((materialize firstDays).exec (run (fun n => n) paidNextDay)).1.isOk := by
    decide +kernel
  have hexact := (hall _ paidNextDay firstDays hids hok).1
  have hwrote := wrote_of_isOk (profitsWf_run hids paidNextDay) hok
  have hlines := hwrote.exact_iff.mp hexact
  revert hlines
  decide +kernel

end ProfitService

end CrossPilot
