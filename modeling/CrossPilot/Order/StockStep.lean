import CrossPilot.Order.Ingested

/-!
# The step for the stock

What `syncInventory` does to the holds of an order, by the decision that it follows. It cannot fail
in a transaction that runs alone: the lines of an order that has just been stored are new, and a
line without a hold can always be shipped.
-/

namespace CrossPilot

open Transaction Table Prog

/-- No hold of the order is open. -/
def NoneOpen (d : Db) (orderId : ℕ) : Prop :=
  ∀ h ∈ d.holds, h.orderId = orderId → h.status ≠ .opened

/-- How an order that moves forward changes a hold: for one of its current lines, and not by
releasing. -/
structure LineStep (d : Db) (orderId : ℕ) (h : InventoryHold) : Prop where
  order : h.orderId = orderId
  status : h.status ≠ .released
  line : ∃ item ∈ d.items, item.id = h.orderItemId ∧ item.orderId = orderId ∧
    Reservable item h.skuId

/-- The version that is replaced, if any, was not shipped. -/
def Unshipped (old : Option InventoryHold) : Prop := ∀ o ∈ old, o.status ≠ .shipped

lemma ReserveStep.unshipped {d : Db} {orderId : ℕ} {old : Option InventoryHold}
    {h : InventoryHold} (hs : ReserveStep d orderId old h) : Unshipped old := by
  intro o ho hst
  rw [hs.old o ho] at hst
  cases hst

lemma ShipStep.unshipped {d : Db} {orderId : ℕ} {old : Option InventoryHold}
    {h : InventoryHold} (hs : ShipStep d orderId old h) : Unshipped old := by
  intro o ho hst
  have hold := hs.old o ho
  rw [hst] at hold
  rcases hold with hno | hno <;> cases hno

lemma ReleaseStep.unshipped {orderId : ℕ} {old : Option InventoryHold} {h : InventoryHold}
    (hs : ReleaseStep orderId old h) : Unshipped old := by
  obtain ⟨o, rfl, hopen, -⟩ := hs.old
  intro o' ho' hst
  cases ho'
  rw [hopen] at hst
  cases hst

lemma ReserveStep.lineStep {d : Db} {orderId : ℕ} {old : Option InventoryHold} {h : InventoryHold}
    (hs : ReserveStep d orderId old h) : LineStep d orderId h := by
  refine ⟨hs.order, ?_, ?_⟩
  · rcases hs.status with hst | hst <;> simp [hst]
  · obtain ⟨item, hi, hid, ho, -, hres⟩ := hs.line
    exact ⟨item, hi, hid, ho, hres⟩

lemma ShipStep.lineStep {d : Db} {orderId : ℕ} {old : Option InventoryHold} {h : InventoryHold}
    (hs : ShipStep d orderId old h) : LineStep d orderId h :=
  ⟨hs.order, by simp [hs.status], hs.line⟩

section steps

variable {c : ℕ → ℕ → ℤ} {s : WorkState} {Q : Unit → WorkState → Prop}
  {E : ServiceError → WorkState → Prop} {orderId : ℕ} {decision : StatusDecision}

/-- Where every line that ships goods has a shipped hold, an open hold of the order is one there
was before. -/
lemma mem_of_opened {s' : WorkState} (hb : Books c s)
    (hs : HoldSteps (fun _ => LineStep s.data orderId) s s')
    (hall : ∀ item ∈ s.data.items, item.orderId = orderId → (∃ skuId, Reservable item skuId) →
      ∃ hold ∈ s'.data.holds, hold.orderItemId = item.id ∧ hold.status = .shipped)
    {hold : InventoryHold} (hh : hold ∈ s'.data.holds) (hst : hold.status = .opened) :
    hold ∈ s.data.holds := by
  rcases hs.mem hh with hin | ⟨-, -, -, item, hi, hid, ho, hres⟩
  · exact hin
  · obtain ⟨other, hother, hid', hst'⟩ := hall item hi ho ⟨_, hres⟩
    have heq := (hs.books hb).wf.items.eq_of_key_eq hother hh (hid'.trans hid)
    rw [heq, hst] at hst'
    cases hst'

/-- The step for the stock of an order that is not cancelled. It cannot fail, and opens no hold
unless the order has been paid. -/
lemma wp_stockStep_forward (hb : Books c s)
    (hnew : ∀ i ∈ s.data.items, i.orderId = orderId → ∀ h ∈ s.data.holds, h.orderItemId ≠ i.id)
    (hto : decision.toStatus ≠ .cancelled)
    (h : ∀ s', HoldSteps (fun old hold => LineStep s.data orderId hold ∧ Unshipped old) s s' →
      (decision.toStatus ≠ .paid →
        ∀ hold ∈ s'.data.holds, hold.status = .opened → hold ∈ s.data.holds) → Q () s') :
    (stockStep orderId decision).wp Q E s := by
  -- a line that was released is one of the lines there were before
  have hship : ∀ s₁, HoldSteps (fun old hold => LineStep s.data orderId hold ∧ Unshipped old) s s₁ →
      (shipOrder orderId).wp Q E s₁ := by
    intro s₁ hs
    refine wp_shipOrder (hs.books hb) (fun s' hs' hall => ?_) ?_
    · rw [hs.items] at hall
      have hboth := hs.trans (hs'.mono fun _ hold hP =>
        ⟨⟨hP.lineStep.order, hP.lineStep.status, hs.items ▸ hP.lineStep.line⟩, hP.unshipped⟩)
      exact h s' hboth fun _ hold hh hst =>
        mem_of_opened hb (hboth.mono fun _ _ hP => hP.1) hall hh hst
    · rintro ⟨item, hi, ho, -, old, hold, hid, hst⟩
      rw [hs.items] at hi
      rcases hs.mem hold with hin | ⟨-, hP, -⟩
      · exact absurd hid (hnew item hi ho old hin)
      · exact absurd hst hP.status
  unfold stockStep syncInventory
  by_cases happly : decision.kind = .apply
  swap
  · rw [if_neg happly]
    exact h s .refl fun _ _ hh _ => hh
  rw [if_pos happly, if_neg fun hc => hto hc.1]
  by_cases hpaid : decision.toStatus = .paid ∧ decision.fromStatus ∈ UnifiedStatus.unpaid
  · rw [if_pos hpaid]
    refine wp_reserveOrder hb fun s' hs _ => h s' (hs.mono fun _ _ hP => ⟨hP.lineStep, hP.unshipped⟩)
      fun hne => ?_
    exact absurd hpaid.1 hne
  rw [if_neg hpaid]
  by_cases hout : decision.toStatus ∈ UnifiedStatus.outbound ∧
      decision.fromStatus ∈ UnifiedStatus.unpaid
  · rw [if_pos hout, bind_eq, wp_bind]
    exact wp_reserveOrder hb fun s₁ hs _ => hship s₁ (hs.mono fun _ _ hP =>
      ⟨hP.lineStep, hP.unshipped⟩)
  rw [if_neg hout]
  by_cases hpaid' : decision.toStatus ∈ UnifiedStatus.outbound ∧ decision.fromStatus = some .paid
  · rw [if_pos hpaid']
    exact hship s .refl
  · rw [if_neg hpaid']
    exact h s .refl fun _ _ hh _ => hh

/-- The step for the stock of a cancelled order. It cannot fail, and leaves no open hold if there
was none or the goods had not left. -/
lemma wp_stockStep_cancelled (hb : Books c s) (hto : decision.toStatus = .cancelled)
    (h : ∀ s', HoldSteps (ReleaseStep orderId) s s' →
      (NoneOpen s.data orderId ∨ decision.kind = .apply ∧
        decision.fromStatus ∈ [none, some .pending, some .paid] → NoneOpen s'.data orderId) →
      Q () s') :
    (stockStep orderId decision).wp Q E s := by
  unfold stockStep syncInventory
  by_cases happly : decision.kind = .apply
  swap
  · rw [if_neg happly]
    refine h s .refl fun hor => ?_
    rcases hor with hnone | ⟨hk, -⟩
    · exact hnone
    · exact absurd hk happly
  rw [if_pos happly, hto]
  by_cases hfrom : decision.fromStatus ∈ [none, some .pending, some .paid]
  · rw [if_pos ⟨rfl, hfrom⟩]
    exact wp_releaseOrder hb fun s' hs hnone => h s' hs fun _ => hnone
  · have hpaid : UnifiedStatus.cancelled ≠ .paid := by decide
    have hout : UnifiedStatus.cancelled ∉ UnifiedStatus.outbound := by decide
    rw [if_neg fun hc => hfrom hc.2, if_neg fun hc => hpaid hc.1, if_neg fun hc => hout hc.1,
      if_neg fun hc => hout hc.1]
    refine h s .refl fun hor => ?_
    rcases hor with hnone | ⟨-, hf⟩
    · exact hnone
    · exact absurd hf hfrom

end steps

end CrossPilot
