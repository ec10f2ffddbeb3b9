import CrossPilot.Database
import CrossPilot.Finance.SettlementFile
import Mathlib.Logic.Relation

/-!
# Sums of imported settlements

The header of a settlement is the sum of its amounts, rounded once, and every item is rounded by
itself. Where no amount has more than six decimals, the header is the sum of the stored items, and
the gaps that are shown later are those that the import computed (`importFile_agrees`).
-/

namespace CrossPilot.SettlementFile

open Decimals Groups Reconcile

variable {letters : Letters} {s s' : Store} {r : Request}

/-! ### What is stored of a line -/

lemma operation_eq_ok_iff {α : Type} {x : Option α} {a : α} : operation x = .ok a ↔ x = some a := by
  cases x <;> simp [operation]

/-- What the stored item keeps of a line. -/
structure Keeps (line : Line) (item : SettlementItem) : Prop where
  platformOrderId : item.platformOrderId = line.platformOrderId
  feeType : item.feeType = line.feeType
  currency : item.currency = line.currency
  amount : ∀ x, line.amount = .finite x →
    item.amount = .finite (Decimals.quantize 6 x) ∧ |Decimals.quantize 6 x| < 10 ^ 14

lemma quantize_finite {x : ℚ} {y : Extended} (h : quantize (.finite x) = .ok y) :
    y = .finite (Decimals.quantize 6 x) := by
  rw [quantize, operation_eq_ok_iff, Extended.quantize] at h
  split_ifs at h
  exact (Option.some.inj h).symm

lemma quantize_quantize (x : ℚ) :
    Decimals.quantize 6 (Decimals.quantize 6 x) = Decimals.quantize 6 x :=
  quantize_eq_self (fixed_quantize 6 x)

lemma storeAmount_quantized {x : ℚ} {y : Extended}
    (h : storeAmount (.finite (Decimals.quantize 6 x)) = .ok y) :
    y = .finite (Decimals.quantize 6 x) ∧ |Decimals.quantize 6 x| < 10 ^ 14 := by
  rw [storeAmount, quantize_quantize] at h
  split_ifs at h with hbound
  exact ⟨(Except.ok.inj h).symm, not_le.mp hbound⟩

lemma storeText_eq_ok_iff {text stored : String} :
    storeText text = .ok stored ↔ Text.storable text ∧ stored = text := by
  rw [storeText]
  split_ifs with h <;> simp [h, eq_comm]

/-- What the loop over the lines lists. -/
structure Lists (line : Line) (listed : MatchedLine) : Prop where
  platformOrderId : listed.platformOrderId = line.platformOrderId
  feeType : listed.feeType = line.feeType
  currency : listed.currency = line.currency
  amount : quantize line.amount = .ok listed.amount

lemma foldlM_gather {orders : String → Option OrderRef} {lines : List Line} {seen seen' : Gathered}
    (h : lines.foldlM (gather orders) seen = .ok seen') :
    ∃ listed, seen'.matched = seen.matched ++ listed ∧ List.Forall₂ Lists lines listed := by
  induction lines generalizing seen with
  | nil =>
    cases h
    exact ⟨[], by simp, .nil⟩
  | cons line rest ih =>
    rw [List.foldlM_cons, bind_eq_ok] at h
    obtain ⟨next, hnext, hrest⟩ := h
    simp only [gather, bind_eq_ok] at hnext
    obtain ⟨amount, hamount, hnext⟩ := hnext
    cases hnext
    obtain ⟨listed, hmatched, hall⟩ := ih hrest
    exact ⟨_ :: listed, by simpa using hmatched, .cons ⟨rfl, rfl, rfl, hamount⟩ hall⟩

lemma storeItem_keeps {line : Line} {listed : MatchedLine} {item : SettlementItem} {id : ℕ}
    (hlists : Lists line listed) (h : storeItem id listed = .ok item) :
    item.settlementId = id ∧ Keeps line item := by
  simp only [storeItem, bind_eq_ok, storeText_eq_ok_iff] at h
  obtain ⟨_, ⟨-, rfl⟩, _, ⟨-, rfl⟩, amount, hamount, h⟩ := h
  cases h
  refine ⟨rfl, hlists.platformOrderId, hlists.feeType, hlists.currency, fun x hx => ?_⟩
  have hquantized := hlists.amount
  rw [hx] at hquantized
  rw [quantize_finite hquantized] at hamount
  exact storeAmount_quantized hamount

lemma storeItems_keep {lines : List Line} {listed : List MatchedLine} {items : List SettlementItem}
    {id : ℕ} (hlists : List.Forall₂ Lists lines listed)
    (h : listed.mapM (storeItem id) = .ok items) :
    (∀ item ∈ items, item.settlementId = id) ∧ List.Forall₂ Keeps lines items := by
  replace h := Fallible.mapM_eq_ok_iff.mp h
  induction hlists generalizing items with
  | nil =>
    cases h
    exact ⟨by simp, .nil⟩
  | cons hline _ ih =>
    cases h with
    | cons hitem hrest =>
      obtain ⟨hid, hkeeps⟩ := storeItem_keeps hline hitem
      obtain ⟨hids, hall⟩ := ih hrest
      exact ⟨List.forall_mem_cons.mpr ⟨hid, hids⟩, .cons hkeeps hall⟩

/-! ### What is stored of a file -/

/-- What an import does with a table. -/
structure Imports (letters : Letters) (s : Store) (r : Request) (table : List (ℤ × List String))
    (s' : Store) (row : Settlement) (lines : List Line) (items : List SettlementItem) : Prop where
  parsed : parseSettlementTable letters table = .ok lines
  id : row.id = s.nextId
  shopId : row.shopId = r.shopId
  currency : row.currency = r.currency
  kept : (∀ item ∈ items, item.settlementId = s.nextId) ∧ List.Forall₂ Keeps lines items
  header : ∃ amount, headerAmount lines r.currency = .ok amount ∧
    storeAmount amount = .ok row.amount
  reconciled : ∃ orders matched gaps rate,
    ordersFor s r.shopId (lines.map Line.platformOrderId) = .ok orders ∧
      reconcile lines orders = .ok (matched, gaps, rate)
  stored : s' = { s with
    settlements := s.settlements ++ [row]
    items := s.items ++ items
    nextId := s.nextId + 1 }

lemma importTable_imports {table : List (ℤ × List String)} {row : Settlement}
    (h : importTable letters s r table = .ok (s', row)) :
    ∃ lines items, Imports letters s r table s' row lines items := by
  simp only [importTable, bind_eq_ok, refused_eq_ok, storeText_eq_ok_iff] at h
  obtain ⟨lines, hlines, -, -, number, -, -, orders, horders, ⟨matched, gaps, rate⟩, hreconcile, h⟩ :=
    h
  obtain ⟨amount, hamount, stored, hstored, source, -, items, hitems, hlast⟩ := h
  cases hlast
  have hlists : List.Forall₂ Lists lines matched := by
    simp only [reconcile, bind_eq_ok] at hreconcile
    obtain ⟨seen, hseen, gaps', -, hlast⟩ := hreconcile
    cases hlast
    obtain ⟨listed, hmatched, hall⟩ := foldlM_gather hseen
    rwa [hmatched]
  exact ⟨lines, items, hlines, rfl, rfl, rfl, storeItems_keep hlists hitems,
    ⟨amount, hamount, hstored⟩, ⟨orders, matched, gaps, rate, horders, hreconcile⟩, rfl⟩

/-- An import of a file replays an earlier one, or stores what its table gives. -/
lemma importFile_cases {size : ℕ} {table : Option (List (ℤ × List String))} {d : Detail}
    (h : importFile letters s r size table = .ok (s', d)) :
    (s' = s ∧ d.row ∈ s.settlements) ∨ ∃ rows, table = some rows ∧
      importTable letters s r rows = .ok (s', d.row) ∧ detail s' d.row = .ok d := by
  have hrow {t : Store} {row : Settlement} {d : Detail} (h : detail t row = .ok d) :
      d.row = row := by
    simp only [detail, bind_eq_ok] at h
    obtain ⟨orders, -, found, -, h⟩ := h
    cases h
    rfl
  simp only [importFile, refused_eq_ok] at h
  obtain ⟨-, h⟩ := h
  split at h
  · next existing hexisting =>
    obtain ⟨d', hdetail, h⟩ := bind_eq_ok.mp h
    cases h
    obtain ⟨key, -, hfind⟩ := Option.bind_eq_some_iff.mp hexisting
    exact .inl ⟨rfl, hrow hdetail ▸ List.mem_of_find?_eq_some hfind⟩
  · rw [refused_eq_ok] at h
    obtain ⟨-, h⟩ := h
    cases table with
    | none => cases h
    | some rows =>
      obtain ⟨⟨t, row⟩, hstore, h⟩ := bind_eq_ok.mp h
      obtain ⟨d', hdetail, h⟩ := bind_eq_ok.mp h
      cases h
      obtain rfl : d.row = row := hrow hdetail
      exact .inr ⟨rows, rfl, hstore, hdetail⟩

/-! ### Runs -/

/-- A file comes in, or shops and orders change. -/
inductive Step (letters : Letters) : Store → Store → Prop
  | importFile {s s' : Store} {r : Request} {size : ℕ} {table : Option (List (ℤ × List String))}
      {d : Detail} (h : importFile letters s r size table = .ok (s', d)) : Step letters s s'
  | change {s : Store} (shops : List ℕ) (orders : ℕ → String → Option OrderRef) :
      Step letters s { s with shops := shops, orders := orders }

abbrev Steps (letters : Letters) : Store → Store → Prop := Relation.ReflTransGen (Step letters)

/-- A store that comes of imports. -/
def Reachable (letters : Letters) (s : Store) : Prop :=
  ∃ shops orders, Steps letters ⟨shops, orders, [], [], 1⟩ s

/-- The ids of settlements that have items were drawn before. -/
def Drawn (s : Store) : Prop := ∀ item ∈ s.items, item.settlementId < s.nextId

/-- A step leaves the items of the settlements that are there. -/
lemma Step.itemsOf (h : Step letters s s') : s.nextId ≤ s'.nextId ∧
    (∀ id < s.nextId, itemsOf s' id = itemsOf s id) ∧ (Drawn s → Drawn s') := by
  cases h with
  | change shops orders => exact ⟨le_rfl, fun _ _ => rfl, fun h => h⟩
  | importFile h =>
    obtain ⟨rfl, -⟩ | ⟨rows, -, hstore, -⟩ := importFile_cases h
    · exact ⟨le_rfl, fun _ _ => rfl, fun h => h⟩
    obtain ⟨lines, items, himports⟩ := importTable_imports hstore
    rw [himports.stored]
    refine ⟨Nat.le_succ _, fun id hid => ?_, fun hdrawn item hitem => ?_⟩
    · have hnone : items.filter (fun item => item.settlementId = id) = [] := by
        rw [List.filter_eq_nil_iff]
        intro item hitem
        simpa using (himports.kept.1 item hitem).trans_ne hid.ne'
      simp [SettlementFile.itemsOf, List.filter_append, hnone]
    · obtain hitem | hitem := List.mem_append.mp hitem
      · exact (hdrawn item hitem).trans (Nat.lt_succ_self _)
      · exact himports.kept.1 item hitem ▸ Nat.lt_succ_self _

lemma Steps.itemsOf (h : Steps letters s s') : s.nextId ≤ s'.nextId ∧
    (∀ id < s.nextId, itemsOf s' id = itemsOf s id) ∧ (Drawn s → Drawn s') := by
  induction h with
  | refl => exact ⟨le_rfl, fun _ _ => rfl, fun h => h⟩
  | tail _ hstep ih =>
    obtain ⟨hle, hitems, hdrawn⟩ := ih
    obtain ⟨hle', hitems', hdrawn'⟩ := hstep.itemsOf
    refine ⟨hle.trans hle', fun id hid => ?_, hdrawn' ∘ hdrawn⟩
    rw [hitems' id (hid.trans_le hle), hitems id hid]

lemma Reachable.drawn (h : Reachable letters s) : Drawn s := by
  obtain ⟨shops, orders, hsteps⟩ := h
  exact hsteps.itemsOf.2.2 (by simp [Drawn])

/-- The items of a settlement are those that its import stored. -/
lemma Imports.itemsOf {table : List (ℤ × List String)} {row : Settlement} {lines : List Line}
    {items : List SettlementItem} (hdrawn : Drawn s)
    (h : Imports letters s r table s' row lines items) : itemsOf s' row.id = items := by
  have hold : s.items.filter (fun item => item.settlementId = s.nextId) = [] := by
    rw [List.filter_eq_nil_iff]
    intro item hitem
    simpa using (hdrawn item hitem).ne
  have hnew : items.filter (fun item => item.settlementId = s.nextId) = items := by
    rw [List.filter_eq_self]
    intro item hitem
    simpa using h.kept.1 item hitem
  rw [h.id, h.stored, SettlementFile.itemsOf, List.filter_append, hold, hnew, List.nil_append]

/-! ### Headers and items -/

/-- All amounts are numbers. -/
def FiniteLines (lines : List Line) : Prop := ∀ line ∈ lines, ∃ x, line.amount = .finite x

/-- All amounts are numbers of at most six decimals. -/
def SixDecimals (lines : List Line) : Prop :=
  ∀ line ∈ lines, ∃ x, line.amount = .finite x ∧ Fixed 6 x

/-- The sum of the items in a currency. -/
def itemSum (currency : String) (items : List SettlementItem) : ℚ :=
  ((items.filter fun item => item.currency = currency).map fun item => item.amount.value).sum

variable {lines : List Line} {items : List SettlementItem} {row : Settlement}

/-- Amounts of six decimals are stored as they are. -/
lemma lines_of_items (h : SixDecimals lines) (hkept : List.Forall₂ Keeps lines items) :
    items.map SettlementItem.line = lines := by
  induction hkept with
  | nil => rfl
  | @cons line item _ _ hline _ ih =>
    obtain ⟨⟨x, hx, hfixed⟩, hrest⟩ := List.forall_mem_cons.mp h
    have hamount := (hline.amount x hx).1
    rw [quantize_eq_self hfixed, ← hx] at hamount
    rw [List.map_cons, ih hrest, SettlementItem.line, hline.platformOrderId, hline.feeType, hamount,
      hline.currency]

/-- Stored amounts are below the bound of their column. -/
lemma abs_lt_of_kept (h : SixDecimals lines) (hkept : List.Forall₂ Keeps lines items) :
    ∀ line ∈ lines, |line.amount.value| < 10 ^ 14 := by
  induction hkept with
  | nil => simp
  | cons hline _ ih =>
    obtain ⟨⟨x, hx, hfixed⟩, hrest⟩ := List.forall_mem_cons.mp h
    have hbound := (hline.amount x hx).2
    rw [quantize_eq_self hfixed] at hbound
    exact List.forall_mem_cons.mpr ⟨by simpa [hx, Extended.value] using hbound, ih hrest⟩

lemma itemSum_eq (h : items.map SettlementItem.line = lines) (currency : String) :
    itemSum currency items =
      ((lines.filter fun line => line.currency = currency).map fun line => line.amount.value).sum := by
  rw [← h, itemSum, List.filter_map, List.map_map]
  rfl

/-- The sum of amounts of six decimals is exact. -/
lemma sumOf_exact (h : SixDecimals lines) (hbound : ∀ line ∈ lines, |line.amount.value| < 10 ^ 14)
    (hlength : lines.length ≤ 10 ^ 8) :
    sumOf (lines.map Line.amount) = .ok (.finite (lines.map fun line => line.amount.value).sum) ∧
      Fixed 6 (lines.map fun line => line.amount.value).sum := by
  have hfinite : lines.map Line.amount =
      (lines.map fun line => line.amount.value).map Extended.finite := by
    rw [List.map_map]
    refine List.map_congr_left fun line hline => ?_
    obtain ⟨x, hx, -⟩ := h line hline
    rw [Function.comp_apply, hx, Extended.value]
  have hfixed : ∀ x ∈ lines.map (fun line => line.amount.value), Fixed 6 x := by
    rw [List.forall_mem_map]
    intro line hline
    obtain ⟨x, hx, hfixed⟩ := h line hline
    rwa [hx, Extended.value]
  have hsum : ((lines.map fun line => line.amount.value).map abs).sum ≤ lines.length * 10 ^ 14 := by
    rw [List.map_map]
    have hle := List.sum_le_card_nsmul (lines.map (abs ∘ fun line => line.amount.value)) (10 ^ 14)
      (by simpa using fun line hline => (hbound line hline).le)
    simpa using hle
  refine ⟨?_, Fixed.sum hfixed⟩
  rw [sumOf, hfinite, Extended.sum_finite (m := 6) hfixed, operation]
  have hcast : (lines.length : ℚ) ≤ 10 ^ 8 := by exact_mod_cast hlength
  calc ((lines.map fun line => line.amount.value).map abs).sum * 10 ^ 6
      ≤ lines.length * 10 ^ 14 * 10 ^ 6 := by gcongr
    _ ≤ 10 ^ 8 * 10 ^ 14 * 10 ^ 6 := by gcongr
    _ = 10 ^ (27 + 1) := by norm_num

/-- What is stored of a file agrees with its lines. -/
structure Agrees (letters : Letters) (s s' : Store) (row : Settlement) (lines : List Line) :
    Prop where
  /-- Every item is its line, rounded to six decimals. -/
  kept : List.Forall₂ Keeps lines (itemsOf s' row.id)
  finite : ∀ item ∈ itemsOf s' row.id, ∃ x, item.amount = .finite x
  /-- The header is the sum of the lines in its currency, rounded once. -/
  header : ∃ total,
    sumOf ((lines.filter fun line => line.currency = row.currency).map Line.amount) =
      .ok (.finite total) ∧ row.amount = .finite (Decimals.quantize 6 total)
  sum : SixDecimals lines → lines.length ≤ 10 ^ 8 →
    row.amount = .finite (itemSum row.currency (itemsOf s' row.id))
  /-- The gaps that are shown later are those of the import. -/
  gaps : SixDecimals lines → ∃ orders matched gaps rate,
    ordersFor s row.shopId (lines.map Line.platformOrderId) = .ok orders ∧
      reconcile lines orders = .ok (matched, gaps, rate) ∧
      ∀ t, Steps letters s' t → t.orders row.shopId = s.orders row.shopId →
        detail t row = .ok ⟨row, itemsOf s' row.id, gaps⟩

lemma SixDecimals.filter (h : SixDecimals lines) (p : Line → Bool) :
    SixDecimals (lines.filter p) :=
  fun line hline => h line (List.mem_filter.mp hline).1

lemma finite_of_kept (h : FiniteLines lines) (hkept : List.Forall₂ Keeps lines items) :
    ∀ item ∈ items, ∃ x, item.amount = .finite x := by
  induction hkept with
  | nil => simp
  | cons hline _ ih =>
    obtain ⟨⟨x, hx⟩, hrest⟩ := List.forall_mem_cons.mp h
    exact List.forall_mem_cons.mpr ⟨⟨_, (hline.amount x hx).1⟩, ih hrest⟩

/-- The header of lines whose amounts are numbers. -/
lemma header_of_finite {currency : String} {amount stored : Extended} (h : FiniteLines lines)
    (hheader : headerAmount lines currency = .ok amount) (hstored : storeAmount amount = .ok stored) :
    ∃ total, sumOf ((lines.filter fun line => line.currency = currency).map Line.amount) =
      .ok (.finite total) ∧ stored = .finite (Decimals.quantize 6 total) := by
  have hall : ∀ x ∈ (lines.filter fun line => line.currency = currency).map Line.amount,
      ∃ y, x = .finite y := by
    rw [List.forall_mem_map]
    exact fun line hline => h line (List.mem_filter.mp hline).1
  obtain ⟨total, htotal⟩ := Extended.exists_sum_finite (k := 27) hall
  have hsum : sumOf ((lines.filter fun line => line.currency = currency).map Line.amount) =
      .ok (.finite total) := by rw [sumOf, htotal, operation]
  refine ⟨total, hsum, ?_⟩
  rw [headerAmount, hsum] at hheader
  rw [quantize_finite hheader] at hstored
  exact (storeAmount_quantized hstored).1

lemma Imports.agrees {table : List (ℤ × List String)} (hdrawn : Drawn s)
    (h : Imports letters s r table s' row lines items) (hfinite : FiniteLines lines) :
    Agrees letters s s' row lines := by
  have hitems := h.itemsOf hdrawn
  have hkept := h.kept.2
  obtain ⟨amount, hheader, hstored⟩ := h.header
  obtain ⟨total, htotal, hrow⟩ := header_of_finite hfinite hheader hstored
  rw [← h.currency] at htotal
  refine ⟨hitems ▸ hkept, hitems ▸ finite_of_kept hfinite hkept, ⟨total, htotal, hrow⟩,
    fun hsix hlength => ?_, fun hsix => ?_⟩
  · have hexact := sumOf_exact (hsix.filter fun line => line.currency = row.currency)
      (fun line hline => abs_lt_of_kept hsix hkept line (List.mem_filter.mp hline).1)
      ((List.length_filter_le _ _).trans hlength)
    rw [hexact.1, Except.ok.injEq, Extended.finite.injEq] at htotal
    rw [hitems, itemSum_eq (lines_of_items hsix hkept), hrow, ← htotal, quantize_eq_self hexact.2]
  · have hlines := lines_of_items hsix hkept
    obtain ⟨orders, matched, gaps, rate, horders, hreconcile⟩ := h.reconciled
    rw [← h.shopId] at horders
    refine ⟨orders, matched, gaps, rate, horders, hreconcile, fun t hsteps hsame => ?_⟩
    have hlt : row.id < s'.nextId := by
      rw [h.id, h.stored]
      exact Nat.lt_succ_self _
    have hitems' : SettlementFile.itemsOf t row.id = items := by
      rw [hsteps.itemsOf.2.1 row.id hlt, hitems]
    have hids : items.map SettlementItem.platformOrderId = lines.map Line.platformOrderId := by
      rw [← hlines, List.map_map]
      rfl
    have horders' : ordersFor t row.shopId (lines.map Line.platformOrderId) = .ok orders := by
      rw [← horders, ordersFor, ordersFor, hsame]
    rw [detail, hitems', hids, horders', hlines, hitems]
    simp [hreconcile, bind, Except.bind, pure, Except.pure]

/-- A file that is imported replays an earlier import or, if its amounts are numbers, is stored as
its lines say. -/
theorem importFile_agrees {size : ℕ} {table : Option (List (ℤ × List String))} {d : Detail}
    (hreachable : Reachable letters s)
    (h : importFile letters s r size table = .ok (s', d)) :
    (s' = s ∧ d.row ∈ s.settlements) ∨ ∃ rows lines, table = some rows ∧
      parseSettlementTable letters rows = .ok lines ∧
      (FiniteLines lines → Agrees letters s s' d.row lines) := by
  obtain hreplayed | ⟨rows, htable, hstore, -⟩ := importFile_cases h
  · exact .inl hreplayed
  · obtain ⟨lines, items, himports⟩ := importTable_imports hstore
    exact .inr ⟨rows, lines, htable, himports.parsed, himports.agrees hreachable.drawn⟩

/-! ### Two small files -/

/-- ASCII letters. -/
private def asciiLetters : Letters := ⟨Text.upper, Char.isAlpha⟩

private def oneShop : Store := ⟨[1], fun _ _ => none, [], [], 1⟩

private def firstRequest : Request := ⟨"settlement.csv", 1, "S-1", 0, 6, "USD", none⟩

/-- A header and two lines with one amount. -/
private def twoLines (amount : String) : List (ℤ × List String) :=
  [(1, headerNames), (2, ["A", "COMMISSION", amount, "usd"]), (3, ["A", "PAYMENT", amount, "usd"])]

private lemma oneShop_reachable : Reachable asciiLetters oneShop := ⟨[1], fun _ _ => none, .refl⟩

/-- Two lines of one and a half. -/
theorem importFile_agrees_twoLines : ∃ s' d,
    importFile asciiLetters oneShop firstRequest 100 (some (twoLines "1.5")) = .ok (s', d) ∧
    ((s' = oneShop ∧ d.row ∈ oneShop.settlements) ∨ ∃ rows lines,
      some (twoLines "1.5") = some rows ∧ parseSettlementTable asciiLetters rows = .ok lines ∧
      (FiniteLines lines → Agrees asciiLetters oneShop s' d.row lines)) := by
  have hok : (importFile asciiLetters oneShop firstRequest 100 (some (twoLines "1.5"))).isOk := by
    decide +kernel
  cases himport : importFile asciiLetters oneShop firstRequest 100 (some (twoLines "1.5")) with
  | error e =>
    rw [himport] at hok
    cases hok
  | ok found => exact ⟨found.1, found.2, rfl, importFile_agrees oneShop_reachable himport⟩

/-- Two amounts of 0.0000004 are rounded to nothing, and their sum to a millionth. -/
theorem header_ne_itemSum : ¬ ∀ letters s r size table s' d, Reachable letters s →
    importFile letters s r size table = .ok (s', d) →
    d.row.amount = .finite (itemSum d.row.currency d.items) := by
  intro h
  have hamounts : (importFile asciiLetters oneShop firstRequest 100
      (some (twoLines "0.0000004"))).map
        (fun found => (found.2.row.amount, itemSum found.2.row.currency found.2.items)) =
      .ok (.finite (1 / 10 ^ 6), 0) := by
    decide +kernel
  cases himport : importFile asciiLetters oneShop firstRequest 100
      (some (twoLines "0.0000004")) with
  | error e =>
    rw [himport] at hamounts
    cases hamounts
  | ok found =>
    have hsame := h _ _ _ _ _ found.1 found.2 oneShop_reachable himport
    rw [himport] at hamounts
    simp only [Except.map, Except.ok.injEq, Prod.mk.injEq] at hamounts
    rw [hamounts.1, hamounts.2, Extended.finite.injEq] at hsame
    norm_num at hsame

end CrossPilot.SettlementFile
