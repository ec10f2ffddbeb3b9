import CrossPilot.Order.Query

/-!
# The exceptions of an order, twice

What is wrong with an order is decided in two places. The exception queue selects its orders by a
clause of the statement, and the badges of an order that is shown come from `classifyExceptions`.

The two differ in what they take for text (the statement compares with the empty text, the badges
strip first) and in where the warning time is cut off (the statement cuts the hours that are left of
the deadline, the badges the hours of warning).
-/

namespace CrossPilot

open OrderReadRepository

/-! ### One kind at a time -/

lemma blank_iff {value : Option String} : blank value = true ↔ value = none ∨ value = some "" := by
  simp [blank]

/-- What is empty for the statement is empty for the badges. -/
lemma cleanText_eq_none_of_blank {value : Option String} (h : blank value = true) :
    cleanText value = none := by
  obtain rfl | rfl := blank_iff.mp h
  · rfl
  · rfl

/-- The address is empty for the statement too, or it has more than spaces where it counts. -/
def AddressReadable (shipTo : Option TextMap) : Prop :=
  blank (field shipTo "country") ∨
    (blank (field shipTo "line1") ∧ blank (field shipTo "city")) ∨
    cleanText (field shipTo "country") ≠ none ∧
      (cleanText (field shipTo "line1") ≠ none ∨ cleanText (field shipTo "city") ≠ none)

lemma addressClause_eq_true (order : SalesOrder) :
    addressClause order = true ↔ blank (field order.shipTo "country") = true ∨
      (blank (field order.shipTo "line1") = true ∧ blank (field order.shipTo "city") = true) := by
  simp only [addressClause, Bool.or_eq_true, Bool.and_eq_true, decide_eq_true_eq]
  constructor
  · rintro ((h | h) | h)
    · left
      rw [h]
      rfl
    · exact Or.inl h
    · exact Or.inr h
  · rintro (h | h)
    · exact Or.inl (Or.inr h)
    · exact Or.inr h

lemma addressInvalid_eq_true (shipTo : Option TextMap) :
    addressInvalid shipTo = true ↔ cleanText (field shipTo "country") = none ∨
      (cleanText (field shipTo "line1") = none ∧ cleanText (field shipTo "city") = none) := by
  simp [addressInvalid]

/-- The statement finds no more than the badges. -/
lemma addressInvalid_of_clause {order : SalesOrder} (h : addressClause order = true) :
    addressInvalid order.shipTo = true := by
  rw [addressInvalid_eq_true]
  obtain hcountry | ⟨hline, hcity⟩ := (addressClause_eq_true order).mp h
  · exact Or.inl (cleanText_eq_none_of_blank hcountry)
  · exact Or.inr ⟨cleanText_eq_none_of_blank hline, cleanText_eq_none_of_blank hcity⟩

theorem addressClause_iff (order : SalesOrder) :
    (addressClause order = true ↔ addressInvalid order.shipTo = true) ↔
      AddressReadable order.shipTo := by
  constructor
  · intro h
    by_cases hclause : addressClause order = true
    · obtain hcountry | hrest := (addressClause_eq_true order).mp hclause
      · exact Or.inl hcountry
      · exact Or.inr (Or.inl hrest)
    · have hvalid : ¬ addressInvalid order.shipTo = true := fun hinvalid => hclause (h.mpr hinvalid)
      rw [addressInvalid_eq_true, not_or, not_and_or] at hvalid
      exact Or.inr (Or.inr hvalid)
  · rintro hreadable
    refine ⟨addressInvalid_of_clause, ?_⟩
    intro hinvalid
    rw [addressClause_eq_true]
    obtain hcountry | hrest | hwords := hreadable
    · exact Or.inl hcountry
    · exact Or.inr hrest
    · rw [addressInvalid_eq_true] at hinvalid
      rw [← not_and_or, ← not_or] at hwords
      exact absurd hinvalid hwords

/-- The payment lies ahead of the clock, and the warning reaches that far because it is longer than
the time to ship. -/
def WarnedAhead (paidAt : Option Instant) (now : Instant) (slaHours warnHours : ℤ) : Prop :=
  0 ≤ warnHours ∧ slaHours < warnHours ∧ ∃ paid, paidAt = some paid ∧ now < paid ∧
    now - hours slaHours < paid ∧ paid ≤ now + hours (warnHours - slaHours)

variable (ctx : ReadContext) (db : Db) (query : OrderListQuery) (order : SalesOrder)

lemma mem_paidOpen {paid : Instant} :
    paidOpen order = some paid ↔ order.unifiedStatus = .paid ∧ order.paidAt = some paid := by
  simp [paidOpen]

/-- The window of an order that waits. -/
lemma shipWindow_of_open {paid now : Instant} (h : paidOpen order = some paid)
    (slaHours warnHours : ℤ) :
    shipWindow order.unifiedStatus order.paidAt now slaHours warnHours =
      if paid ≤ now - hours slaHours then some .shipOverdue
      else if paid ≤ now - hours slaHours + hours (max warnHours 0) then some .shipDueSoon
      else none := by
  obtain ⟨hpaid, hat⟩ := (mem_paidOpen order).mp h
  have hdue : paid + hours slaHours ≤ now ↔ paid ≤ now - hours slaHours := le_sub_iff_add_le.symm
  have hsoon : paid + hours slaHours - hours (max warnHours 0) ≤ now ↔
      paid ≤ now - hours slaHours + hours (max warnHours 0) := by
    constructor <;> intro h <;> linarith
  simp only [shipWindow, shipDeadline, hpaid, hat, ne_eq, not_true, if_false, Option.map_some,
    hdue, hsoon]

lemma shipWindow_of_not_open (h : paidOpen order = none) (now : Instant)
    (slaHours warnHours : ℤ) :
    shipWindow order.unifiedStatus order.paidAt now slaHours warnHours = none := by
  by_cases hpaid : order.unifiedStatus = .paid
  · have hat : order.paidAt = none := by simpa [paidOpen, hpaid] using h
    simp [shipWindow, shipDeadline, hpaid, hat]
  · simp [shipWindow, hpaid]

lemma shipWindow_eq_overdue {now : Instant} {slaHours warnHours : ℤ} :
    shipWindow order.unifiedStatus order.paidAt now slaHours warnHours = some .shipOverdue ↔
      (paidOpen order).any (fun paid => paid ≤ now - hours slaHours) = true := by
  cases h : paidOpen order with
  | none => simp [shipWindow_of_not_open order h]
  | some paid =>
    rw [shipWindow_of_open order h]
    by_cases hdue : paid ≤ now - hours slaHours
    · simp [hdue]
    · by_cases hsoon : paid ≤ now - hours slaHours + hours (max warnHours 0) <;> simp [hdue, hsoon]

/-- For a payment that is not overdue: the two cuts part only ahead of the clock. -/
private lemma hours_cuts_iff {now paid sla warn : ℤ} (hdue : now - sla * 3600000000 < paid) :
    (paid ≤ now - max (sla - warn) 0 * 3600000000 ↔
        paid ≤ now - sla * 3600000000 + max warn 0 * 3600000000) ↔
      ¬ (0 ≤ warn ∧ sla < warn ∧ now < paid ∧ paid ≤ now + (warn - sla) * 3600000000) := by
  omega

/-- The statement and the badges cut the warning off in different places. -/
theorem cuts_agree_iff {now paid : Instant} {slaHours warnHours : ℤ}
    (hdue : now - hours slaHours < paid) :
    (paid ≤ now - hours (max (slaHours - warnHours) 0) ↔
        paid ≤ now - hours slaHours + hours (max warnHours 0)) ↔
      ¬ WarnedAhead (some paid) now slaHours warnHours := by
  have hcuts : (paid ≤ now - hours (max (slaHours - warnHours) 0) ↔
      paid ≤ now - hours slaHours + hours (max warnHours 0)) ↔
      ¬ (0 ≤ warnHours ∧ slaHours < warnHours ∧ now < paid ∧
        paid ≤ now + hours (warnHours - slaHours)) := hours_cuts_iff hdue
  rw [hcuts, WarnedAhead]
  simp [hdue]

theorem dueSoon_iff {now : Instant} {slaHours warnHours : ℤ} :
    ((paidOpen order).any (fun paid =>
          paid ≤ now - hours (max (slaHours - warnHours) 0) && now - hours slaHours < paid) = true ↔
        shipWindow order.unifiedStatus order.paidAt now slaHours warnHours = some .shipDueSoon) ↔
      ¬ WarnedAhead (paidOpen order) now slaHours warnHours := by
  cases h : paidOpen order with
  | none => simp [shipWindow_of_not_open order h, WarnedAhead]
  | some paid =>
    rw [shipWindow_of_open order h]
    by_cases hdue : paid ≤ now - hours slaHours
    · have hnot : ¬ WarnedAhead (some paid) now slaHours warnHours := by
        rintro ⟨_, _, _, heq, _, hlt, _⟩
        rw [← Option.some.inj heq] at hlt
        exact absurd hdue (not_le.mpr hlt)
      simp [hdue, not_lt.mpr hdue, hnot]
    · have hlt := not_le.mp hdue
      have hsoon : (if paid ≤ now - hours slaHours + hours (max warnHours 0) then
          some ExceptionKind.shipDueSoon else none) = some .shipDueSoon ↔
          paid ≤ now - hours slaHours + hours (max warnHours 0) := by
        split_ifs with h <;> simp [h]
      simp only [Option.any_some, hdue, if_false, hlt, decide_true, Bool.and_true, decide_eq_true_eq,
        hsoon]
      exact cuts_agree_iff hlt

lemma contains_unmatchedOrderIds {ids : List ℕ} (hid : order.id ∈ ids) :
    (unmatchedOrderIds db ids).contains order.id =
      db.items.any fun item => item.orderId = order.id && item.skuId = none := by
  rw [Bool.eq_iff_iff]
  simp only [unmatchedOrderIds, List.contains_iff_mem, List.mem_map, List.mem_filter, List.any_eq_true,
    Bool.and_eq_true, decide_eq_true_eq]
  constructor
  · rintro ⟨item, ⟨hmem, _, hsku⟩, horder⟩
    exact ⟨item, hmem, horder, hsku⟩
  · rintro ⟨item, hmem, horder, hsku⟩
    exact ⟨item, ⟨hmem, horder ▸ hid, hsku⟩, horder⟩

/-! ### All kinds -/

/-- Where statement and badges agree. -/
def Agree (kind : ExceptionKind) (now : Instant) (slaHours warnHours : ℤ) : Prop :=
  match kind with
  | .addressInvalid => AddressReadable order.shipTo
  | .shipDueSoon => ¬ WarnedAhead (paidOpen order) now slaHours warnHours
  | .skuUnmatched => True
  | .shipOverdue => True
  | .reviewPending => True

/-- Each kind is reported for its own reason. -/
lemma mem_classifyExceptions {kind : ExceptionKind} {skuUnmatched : Bool} {now : Instant}
    {slaHours warnHours : ℤ} :
    kind ∈ classifyExceptions order skuUnmatched now slaHours warnHours ↔
      match kind with
      | .skuUnmatched => skuUnmatched = true
      | .addressInvalid => addressInvalid order.shipTo = true
      | .shipDueSoon =>
        shipWindow order.unifiedStatus order.paidAt now slaHours warnHours = some .shipDueSoon
      | .shipOverdue =>
        shipWindow order.unifiedStatus order.paidAt now slaHours warnHours = some .shipOverdue
      | .reviewPending => order.reviewStatus = .pending := by
  have hwindow : shipWindow order.unifiedStatus order.paidAt now slaHours warnHours = none ∨
      shipWindow order.unifiedStatus order.paidAt now slaHours warnHours = some .shipDueSoon ∨
      shipWindow order.unifiedStatus order.paidAt now slaHours warnHours = some .shipOverdue := by
    cases h : paidOpen order with
    | none => exact Or.inl (shipWindow_of_not_open order h now slaHours warnHours)
    | some paid =>
      rw [shipWindow_of_open order h]
      split_ifs <;> simp
  have hsku : ∀ k, k ∈ (if skuUnmatched then [ExceptionKind.skuUnmatched] else []) ↔
      k = .skuUnmatched ∧ skuUnmatched = true := by
    intro k
    cases skuUnmatched <;> simp
  have haddress : ∀ k, k ∈ (if addressInvalid order.shipTo then [ExceptionKind.addressInvalid] else [])
      ↔ k = .addressInvalid ∧ addressInvalid order.shipTo = true := by
    intro k
    cases addressInvalid order.shipTo <;> simp
  have hreview : ∀ k, k ∈ (if order.reviewStatus = .pending then [ExceptionKind.reviewPending] else [])
      ↔ k = .reviewPending ∧ order.reviewStatus = .pending := by
    intro k
    by_cases h : order.reviewStatus = .pending <;> simp [h]
  simp only [classifyExceptions, List.mem_append, hsku, haddress, hreview, Option.mem_toList]
  obtain hw | hw | hw := hwindow <;> cases kind <;> simp [hw]

/-- The clause of the exception queue selects an order for a kind exactly if the badges report it,
where the two agree on text and on the warning, and nowhere else. -/
theorem exceptionClause_iff_classify {kind : ExceptionKind} (hkind : query.exceptionKind = some kind)
    {ids : List ℕ} (hid : order.id ∈ ids) :
    (exceptionClause ctx db query order = true ↔
        kind ∈ classifyExceptions order ((unmatchedOrderIds db ids).contains order.id)
          (clock ctx query) query.slaHours query.warnHours) ↔
      Agree order kind (clock ctx query) query.slaHours query.warnHours := by
  rw [mem_classifyExceptions, contains_unmatchedOrderIds db order hid]
  cases kind with
  | skuUnmatched => simp [exceptionClause, hkind, Agree]
  | addressInvalid =>
    have hclause : exceptionClause ctx db query order = addressClause order := by
      simp [exceptionClause, hkind]
    rw [hclause]
    exact addressClause_iff order
  | shipDueSoon =>
    have hclause : exceptionClause ctx db query order = (paidOpen order).any fun paid =>
        paid ≤ soonBefore ctx query && overdueBefore ctx query < paid := by
      simp [exceptionClause, hkind]
    rw [hclause]
    exact dueSoon_iff order
  | shipOverdue =>
    have hclause : exceptionClause ctx db query order = (paidOpen order).any fun paid =>
        paid ≤ overdueBefore ctx query := by
      simp [exceptionClause, hkind]
    rw [hclause]
    simp only [Agree, iff_true]
    exact (shipWindow_eq_overdue order).symm
  | reviewPending => simp [exceptionClause, hkind, Agree]

/-- A paid order. -/
def waitingOrder : SalesOrder where
  id := 1
  shopId := 1
  platformCode := "shopee"
  platformOrderId := "S1"
  idempotencyKey := "shopee:S1"
  platformStatus := "READY_TO_SHIP"
  unifiedStatus := .paid
  currency := "SGD"
  shipTo := some [("country", "SG"), ("city", "Central")]
  paidAt := some (hours 1)

/-- 45 hours after the payment the order is due soon for both. -/
theorem exceptionClause_iff_classify_waitingOrder :
    let query : OrderListQuery :=
      { limit := 20, exceptionKind := some .shipDueSoon, asOf := some (hours 46) };
    exceptionClause plainDesk.toReadContext {} query waitingOrder = true ∧
    ExceptionKind.shipDueSoon ∈ classifyExceptions waitingOrder false (hours 46) 48 4 := by
  intro query
  have hkind : query.exceptionKind = some .shipDueSoon := rfl
  have hid : waitingOrder.id ∈ [1] := by decide
  have h := exceptionClause_iff_classify plainDesk.toReadContext {} query waitingOrder hkind hid
  have hagree : Agree waitingOrder .shipDueSoon (hours 46) 48 4 := by
    rintro ⟨_, hlt, _⟩
    exact absurd hlt (by decide)
  exact ⟨(h.mpr hagree).mpr (by decide), by decide⟩

/-- With four hours of warning on two hours to ship, the badges warn of an order that is paid an
hour ahead of the clock, and the queue does not show it. Nor does it show an address whose country is
a space. -/
theorem exceptionClause_misses :
    (let query : OrderListQuery :=
        { limit := 20, exceptionKind := some .shipDueSoon, slaHours := 2, warnHours := 4,
          asOf := some 0 };
      ¬ (exceptionClause plainDesk.toReadContext {} query waitingOrder = true ↔
        ExceptionKind.shipDueSoon ∈ classifyExceptions waitingOrder false 0 2 4)) ∧
    (let query : OrderListQuery :=
        { limit := 20, exceptionKind := some .addressInvalid, asOf := some 0 };
      let order := { waitingOrder with shipTo := some [("country", " "), ("city", "Central")] };
      ¬ (exceptionClause plainDesk.toReadContext {} query order = true ↔
        ExceptionKind.addressInvalid ∈ classifyExceptions order false 0 48 4)) := by
  decide

end CrossPilot
