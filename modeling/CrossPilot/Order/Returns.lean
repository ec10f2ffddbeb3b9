import CrossPilot.Order.OpenHolds

/-!
# Returns and the status of their order

Two machines move together: a return is requested, approved and refunded, and each of the last two
steps moves its order. An approval takes the order out of the main chain, and nothing leads back, so
that at most one return of an order is ever approved, refunded and put back in stock
(`Run.refunded_once`). A cancelled order stays cancelled. Refunded and returned are not ends: a
platform may report either after the other.
-/

namespace CrossPilot

open Transaction Table Prog

/-! ### Moves and statuses -/

/-- An order stays in its status, or moves along an allowed edge. -/
def Follows (current next : UnifiedStatus) : Prop :=
  next = current ∨ ∃ source, allowed current next source

/-- The orders of `d` are still there in `d'`, each in a status that may follow its old one. -/
structure Progress (d d' : Db) : Prop where
  kept : ∀ o ∈ d.orders, ∃ o' ∈ d'.orders, o'.id = o.id
  follows : ∀ o ∈ d.orders, ∀ o' ∈ d'.orders, o'.id = o.id →
    Follows o.unifiedStatus o'.unifiedStatus

lemma follows_decideStatus (current : UnifiedStatus) (target : Option UnifiedStatus)
    (source : StatusChangeSource) :
    Follows current (decideStatus (some current) target source).toStatus := by
  by_cases happly : (decideStatus (some current) target source).kind = .apply
  · obtain ⟨t, -, -, hallowed, heq⟩ := decideStatus_apply_iff.mp happly
    rw [heq]
    exact .inr ⟨source, hallowed⟩
  · exact .inl (decideStatus_toStatus_of_ne happly)

section progress

variable {c : ℕ → ℕ → ℤ} {d d' d'' : Db} {l : Session} {row : SalesOrder}

lemma Progress.of_eq (hids : Keyed SalesOrder.id d.orders) (h : d'.orders = d.orders) :
    Progress d d' := by
  refine ⟨fun o ho => ⟨o, h ▸ ho, rfl⟩, fun o ho o' ho' hid => .inl ?_⟩
  rw [h] at ho'
  rw [hids.eq_of_key_eq ho' ho hid]

/-- One order gets a new row. -/
lemma Progress.of_put (hids : Keyed SalesOrder.id d.orders)
    (h : d'.orders = put SalesOrder.id row d.orders)
    (hrow : ∀ o ∈ d.orders, row.id = o.id → Follows o.unifiedStatus row.unifiedStatus) :
    Progress d d' := by
  refine ⟨fun o ho => ?_, fun o ho o' ho' hid => ?_⟩
  · rw [h]
    by_cases hid : o.id = row.id
    · exact ⟨row, mem_put.mpr (.inl rfl), hid.symm⟩
    · exact ⟨o, mem_put.mpr (.inr ⟨ho, hid⟩), rfl⟩
  · rw [h] at ho'
    rcases mem_put.mp ho' with rfl | ⟨ho', -⟩
    · exact hrow o ho hid
    · rw [hids.eq_of_key_eq ho' ho hid]
      exact .inl rfl

/-- States in which moves are made. -/
structure Fit (c : ℕ → ℕ → ℤ) (d : Db) : Prop where
  inBooks : InBooks c d
  ordersWf : OrdersWf d

/-- A snapshot moves its order along, and leaves the returns alone. -/
lemma Fit.ingest (h : Fit c d) (hl : Worker d l) (intake : Intake) (order : UnifiedOrder) :
    let d' := (Move.ingest intake order).work.commit l d
    Fit c d' ∧ Progress d d' ∧ d'.returns = d.returns := by
  refine commit_ingest (R := fun d' => Fit c d' ∧ Progress d d' ∧ d'.returns = d.returns)
    ⟨h, .of_eq h.ordersWf.ids rfl, rfl⟩ fun key hkey => ?_
  have hb := h.inBooks.books hl
  refine wp_ingestOrder hl.fresh h.ordersWf hkey
    (fun _ _ _ _ => ⟨h, .of_eq h.ordersWf.ids rfl, rfl⟩) fun row s₁ action hi _ => ?_
  have hb₁ := hi.books c hb
  have hend : ∀ {P : Option InventoryHold → InventoryHold → Prop} (s₂ : WorkState),
      HoldSteps P s₁ s₂ →
      Fit c s₂.data ∧ Progress d s₂.data ∧ s₂.data.returns = d.returns := by
    intro P s₂ hs
    have horders : s₂.data.orders = s₁.data.orders := by rw [hs.frame]
    have hreturns : s₂.data.returns = d.returns := by rw [hs.frame, hi.frame]
    refine ⟨⟨(hs.books hb₁).inBooks, ⟨horders ▸ hi.ordersWf.ids, horders ▸ hi.ordersWf.keys⟩⟩,
      .of_put h.ordersWf.ids (horders.trans hi.orders) fun o ho hid => ?_, hreturns⟩
    by_cases hk : o.idempotencyKey = key
    · rw [hi.status, decisionOn_of_mem h.ordersWf ho hk]
      exact follows_decideStatus _ _ _
    · -- a row that takes the place of an order has the order's key
      by_cases hknown : ∃ o' ∈ d.orders, o'.idempotencyKey = key
      · obtain ⟨o', ho', hk'⟩ := hknown
        have heq := h.ordersWf.ids.eq_of_key_eq ho' ho ((hi.found o' ho' hk').1.trans hid)
        exact absurd (heq ▸ hk') hk
      · have hunused := hi.new fun o' ho' hk' => hknown ⟨o', ho', hk'⟩
        exact absurd (.order ho hid) hunused
  by_cases hcancel : (decisionOn intake order key d).toStatus = .cancelled
  · exact wp_stockStep_cancelled hb₁ hcancel fun s₂ hs _ => hend s₂ hs
  · refine wp_stockStep_forward hb₁ (fun i hi' ho hold hh => ?_) hcancel fun s₂ hs _ => hend s₂ hs
    rw [hi.holds] at hh
    exact hi.fresh i hi' ho hold hh

/-- Shipping by hand moves an order along, and leaves the returns alone. -/
lemma Fit.ship (h : Fit c d) (hl : Worker d l) (dispatch : Dispatch) (orderId : ℕ) :
    let d' := (Move.ship dispatch orderId).work.commit l d
    Fit c d' ∧ Progress d d' ∧ d'.returns = d.returns := by
  have hb := h.inBooks.books hl
  refine commit_of_wp (R := fun d' => Fit c d' ∧ Progress d d' ∧ d'.returns = d.returns) ?_
  rw [Move.work, bind_eq, wp_bind]
  apply wp_batchShip_one hb h.ordersWf ?_ ?_ fun _ => ⟨h, .of_eq h.ordersWf.ids rfl, rfl⟩
  · intro _ s' hd
    have horders : s'.data.orders = d.orders := by rw [hd]
    have hb' : Books c ⟨l, s'.data, []⟩ :=
      hb.of_frame rfl (by rw [hd]) (by rw [hd]) (by rw [hd]) horders
    refine ⟨⟨hb'.inBooks, ⟨horders ▸ h.ordersWf.ids, horders ▸ h.ordersWf.keys⟩⟩,
      .of_eq h.ordersWf.ids horders, ?_⟩
    show s'.data.returns = d.returns
    rw [hd]
  rintro held hmem hid hpaid row s₁ s₂ lines s' ⟨hrowId, hrowKey, hst, hplaced, hsteps, -⟩ hd
  have hb₁ := hplaced.books c hb
  have hw₁ := hplaced.ordersWf h.ordersWf hmem hrowId hrowKey
  have horders : s₂.data.orders = s₁.data.orders := by rw [hsteps.frame]
  have hreturns : s₂.data.returns = s₁.data.returns := by rw [hsteps.frame]
  show Fit c s'.data ∧ Progress d s'.data ∧ s'.data.returns = d.returns
  rw [hd]
  refine ⟨⟨(hsteps.books hb₁).inBooks, ⟨horders ▸ hw₁.ids, horders ▸ hw₁.keys⟩⟩,
    .of_put h.ordersWf.ids (horders.trans hplaced.orders) fun o ho hid' => ?_,
    hreturns.trans hplaced.returns⟩
  rw [h.ordersWf.ids.eq_of_key_eq ho hmem (hid'.symm.trans hrowId), hpaid, hst]
  exact .inr ⟨.manual, by decide⟩

/-- The returns of `d'` are those of `d` and one that an operator has just requested. -/
def Requested (l : Session) (d d' : Db) : Prop :=
  ∃ r, d'.returns = d.returns ++ [r] ∧ (∃ n, r.id = l.ids n) ∧ r.status = .requested ∧
    ∃ o ∈ d.orders, o.id = r.orderId

/-- A new return is requested. -/
lemma Fit.createReturn (h : Fit c d) (hl : Worker d l) (orderId : ℕ) (payload : ReturnWrite) :
    let d' := (Move.createReturn orderId payload).work.commit l d
    Fit c d' ∧ d'.orders = d.orders ∧ (d'.returns = d.returns ∨ Requested l d d') := by
  let R (d' : Db) : Prop :=
    Fit c d' ∧ d'.orders = d.orders ∧ (d'.returns = d.returns ∨ Requested l d d')
  have hsame : R d := ⟨h, rfl, .inl rfl⟩
  apply commit_of_wp (R := R)
  rw [Move.work, bind_eq, wp_bind]
  apply wp_createReturn h.ordersWf.ids
  · intro order ho row hid hof hstatus
    have hb : Books c ⟨l, { d with returns := d.returns ++ [row] }, []⟩ :=
      (h.inBooks.books hl).of_frame rfl rfl rfl rfl rfl
    exact ⟨⟨hb.inBooks, ⟨h.ordersWf.ids, h.ordersWf.keys⟩⟩, rfl,
      .inr ⟨row, rfl, ⟨0, hid⟩, hstatus, order, ho, hof.symm⟩⟩
  · exact fun _ => hsame

/-- An action on a return is refused, or moves it and its order together. -/
lemma Fit.transitionReturn (h : Fit c d) (hl : Worker d l) (returnId : ℕ) (action : ReturnAction)
    (userId : ℕ) :
    let work := (Move.transitionReturn returnId action userId).work
    let d' := work.commit l d
    (work.exec ⟨l, d, []⟩).1.isOk = false ∧ d' = d ∨
      Fit c d' ∧ ∃ r ∈ d.returns, r.id = returnId ∧ ∃ o ∈ d.orders, o.id = r.orderId ∧
        ∃ s', d' = s'.data ∧ Transitioned c action r o ⟨l, d, []⟩ s' := by
  refine commit_cases (R := fun d' => Fit c d' ∧ ∃ r ∈ d.returns, r.id = returnId ∧
    ∃ o ∈ d.orders, o.id = r.orderId ∧ ∃ s', d' = s'.data ∧
      Transitioned c action r o ⟨l, d, []⟩ s') ?_
  refine wp_transitionReturn (h.inBooks.books hl) h.ordersWf (fun r hr hid o ho hoid s' ht => ?_)
    fun _ _ => trivial
  refine ⟨⟨ht.books.inBooks, ?_⟩, r, hr, hid, o, ho, hoid, s', rfl, ht⟩
  have horders := ht.orders
  cases htarget : action.target with
  | none =>
    rw [htarget] at horders
    have horders : s'.data.orders = d.orders := horders
    exact ⟨horders ▸ h.ordersWf.ids, horders ▸ h.ordersWf.keys⟩
  | some target =>
    rw [htarget] at horders
    refine ⟨?_, ?_⟩
    · rw [horders]
      exact h.ordersWf.ids.put _
    · rw [horders]
      refine h.ordersWf.keys.put_of h.ordersWf.ids fun o' ho' hk => ?_
      have heq : o' = o := h.ordersWf.keys.eq_of_key_eq ho' ho hk
      rw [heq]

end progress

/-- Off the main chain, where an approval takes an order. -/
def UnifiedStatus.offChain : List UnifiedStatus := [.refunding, .refunded, .returned]

/-- No operator starts a refund off the chain. -/
lemma not_refunding_of_offChain {status : UnifiedStatus} (h : status ∈ UnifiedStatus.offChain) :
    .refunding ∉ status.manualTargets := by
  revert h
  cases status <;> decide

/-! ### Runs -/

namespace Move

/-- The move puts the goods of a return of the order back in stock: it refunds one that asks for
it, and nothing is raised. -/
def posts (l : Session) (d : Db) (orderId : ℕ) (m : Move) : Bool :=
  match m with
  | transitionReturn returnId .refund _ =>
    (m.work.exec ⟨l, d, []⟩).1.isOk && d.returns.any fun r =>
      r.id = returnId && r.orderId = orderId && r.restockFlag
  | _ => false

end Move

/-- Moves happen one after the other, each in a transaction of its own. `n` of them put goods of
the order back. -/
inductive Run (orderId : ℕ) (d₀ : Db) : ℕ → Db → Prop
  | start : Run orderId d₀ 0 d₀
  | move {d : Db} {n : ℕ} (m : Move) (l : Session) : Run orderId d₀ n d → Worker d l →
    (∀ r ∈ d.returns, ∀ k, r.id ≠ l.ids k) →
    Run orderId d₀ (n + (m.posts l d orderId).toNat) (m.work.commit l d)

/-- A return that has moved its order. -/
def ReturnStatus.moved : List ReturnStatus := [.approved, .refunded]

/-- What a run keeps of the returns of an order, when `n` moves have put goods back. -/
structure ReturnsWf (orderId n : ℕ) (d : Db) : Prop where
  ids : Keyed ReturnOrder.id d.returns
  once : ∀ r ∈ d.returns, ∀ r' ∈ d.returns, r.orderId = orderId → r'.orderId = orderId →
    r.status ∈ ReturnStatus.moved → r'.status ∈ ReturnStatus.moved → r = r'
  off : ∀ r ∈ d.returns, r.orderId = orderId → r.status ∈ ReturnStatus.moved →
    ∀ o ∈ d.orders, o.id = orderId → o.unifiedStatus ∈ UnifiedStatus.offChain
  known : ∀ r ∈ d.returns, r.orderId = orderId → ∃ o ∈ d.orders, o.id = orderId
  posted : n = 0 ∨ n = 1 ∧ ∃ r ∈ d.returns, r.orderId = orderId ∧ r.status = .refunded

/-- An order that is off the chain stays off it. -/
lemma Follows.offChain {current next : UnifiedStatus} (h : Follows current next)
    (hc : current ∈ UnifiedStatus.offChain) : next ∈ UnifiedStatus.offChain := by
  rcases h with rfl | ⟨source, hallowed⟩
  · exact hc
  · revert hallowed hc
    cases source <;> cases current <;> cases next <;> decide

section runs

variable {orderId n : ℕ} {c : ℕ → ℕ → ℤ} {d d' : Db} {l : Session}

/-- The returns stay as they are, and the orders move along. -/
lemma ReturnsWf.of_eq (h : ReturnsWf orderId n d) (hp : Progress d d')
    (hreturns : d'.returns = d.returns) : ReturnsWf orderId n d' := by
  refine ⟨hreturns ▸ h.ids, hreturns ▸ h.once, fun r hr ho hm o' ho' hid => ?_,
    fun r hr ho => ?_, hreturns ▸ h.posted⟩
  · rw [hreturns] at hr
    obtain ⟨o, hmem, hoid⟩ := h.known r hr ho
    exact (hp.follows o hmem o' ho' (hid.trans hoid.symm)).offChain (h.off r hr ho hm o hmem hoid)
  · rw [hreturns] at hr
    obtain ⟨o, hmem, hoid⟩ := h.known r hr ho
    obtain ⟨o', ho', hid⟩ := hp.kept o hmem
    exact ⟨o', ho', hid.trans hoid⟩

lemma ReturnsWf.of_requested (h : ReturnsWf orderId n d) (hids : ∀ r ∈ d.returns, ∀ k, r.id ≠ l.ids k)
    (horders : d'.orders = d.orders) (hr : Requested l d d') : ReturnsWf orderId n d' := by
  obtain ⟨new, hreturns, ⟨k, hid⟩, hst, o, ho, hoid⟩ := hr
  have hold : ∀ r ∈ d'.returns, r.status ∈ ReturnStatus.moved → r ∈ d.returns := by
    intro r hr hm
    rw [hreturns] at hr
    rcases List.mem_append.mp hr with hr | hr
    · exact hr
    · rw [List.mem_singleton.mp hr, hst] at hm
      exact absurd hm (by decide)
  refine ⟨?_, fun r hr r' hr' hro hro' hm hm' => ?_, fun r hr hro hm => ?_, fun r hr hro => ?_, ?_⟩
  · rw [hreturns]
    exact h.ids.append_singleton fun r hr heq => hids r hr k (heq.trans hid)
  · exact h.once r (hold r hr hm) r' (hold r' hr' hm') hro hro' hm hm'
  · rw [horders]
    exact h.off r (hold r hr hm) hro hm
  · rw [horders]
    rw [hreturns] at hr
    rcases List.mem_append.mp hr with hr | hr
    · exact h.known r hr hro
    · rw [List.mem_singleton.mp hr] at hro
      exact ⟨o, ho, hoid.trans hro⟩
  · rcases h.posted with hzero | ⟨hone, r, hr, hro, hst'⟩
    · exact .inl hzero
    · refine .inr ⟨hone, r, ?_, hro, hst'⟩
      rw [hreturns]
      exact List.mem_append_left _ hr

/-- The two actions that move a return and its order. -/
lemma decideReturn_moved {current next : ReturnStatus} {action : ReturnAction}
    (h : decideReturn current action = some next) (hm : next ∈ ReturnStatus.moved) :
    action = .approve ∧ current = .requested ∧ next = .approved ∨
      action = .refund ∧ current = .approved ∧ next = .refunded := by
  revert h hm
  cases current <;> cases action <;> cases next <;> decide

/-- A refunded return is done with. -/
lemma decideReturn_refunded (action : ReturnAction) :
    decideReturn .refunded action = none := by
  cases action <;> rfl

lemma Transitioned.progress {action : ReturnAction} {r : ReturnOrder} {o : SalesOrder}
    {s s' : WorkState} (ht : Transitioned c action r o s s') (hids : Keyed SalesOrder.id s.data.orders)
    (ho : o ∈ s.data.orders) : Progress s.data s'.data := by
  have horders := ht.orders
  cases htarget : action.target with
  | none =>
    rw [htarget] at horders
    exact .of_eq hids horders
  | some target =>
    rw [htarget] at horders
    refine .of_put hids horders fun o' ho' hid => .inr ⟨.manual, ?_⟩
    have heq : o = o' := hids.eq_of_key_eq ho ho' hid
    rw [← heq]
    simpa [allowed] using ht.edge target htarget

/-- An action keeps the law, with one more move counted if it puts goods of the order back. -/
lemma ReturnsWf.of_transitioned {action : ReturnAction} {r : ReturnOrder} {o : SalesOrder}
    {s s' : WorkState} (h : ReturnsWf orderId n s.data) (hids : Keyed SalesOrder.id s.data.orders)
    (hr : r ∈ s.data.returns) (ho : o ∈ s.data.orders) (hoid : o.id = r.orderId)
    (ht : Transitioned c action r o s s') {k : ℕ}
    (hk : k = 0 ∨ k = 1 ∧ action = .refund ∧ r.orderId = orderId) :
    ReturnsWf orderId (n + k) s'.data := by
  obtain ⟨status, restocked, hnext, hreturns⟩ := ht.status
  have hprog := ht.progress hids ho
  let r₁ : ReturnOrder := { r with status, restockStatus := restocked }
  have hcases : ∀ x ∈ s'.data.returns, x = r₁ ∨ x ∈ s.data.returns ∧ x.id ≠ r.id := by
    intro x hx
    rw [hreturns] at hx
    obtain ⟨t, hmem, rfl⟩ := mem_alter.mp hx
    by_cases hid : t.id = r.id
    · rw [if_pos hid, h.ids.eq_of_key_eq hmem hr hid]
      exact .inl rfl
    · rw [if_neg hid]
      exact .inr ⟨hmem, hid⟩
  have hnew : r₁ ∈ s'.data.returns := by
    rw [hreturns]
    exact mem_alter.mpr ⟨r, hr, (if_pos rfl).symm⟩
  have hkeep : ∀ x ∈ s.data.returns, x.id ≠ r.id → x ∈ s'.data.returns := by
    intro x hx hne
    rw [hreturns]
    exact mem_alter.mpr ⟨x, hx, (if_neg hne).symm⟩
  have hkeys : Keyed ReturnOrder.id s'.data.returns := by
    rw [hreturns]
    exact h.ids.alter fun _ => rfl
  have hknown : ∀ x ∈ s'.data.returns, x.orderId = orderId →
      ∃ o ∈ s'.data.orders, o.id = orderId := by
    intro x hx hxo
    have hold : ∃ y ∈ s.data.returns, y.orderId = orderId := by
      rcases hcases x hx with rfl | ⟨hx, -⟩
      · exact ⟨r, hr, hxo⟩
      · exact ⟨x, hx, hxo⟩
    obtain ⟨y, hy, hyo⟩ := hold
    obtain ⟨o₀, ho₀, hid₀⟩ := h.known y hy hyo
    obtain ⟨o', ho', hid'⟩ := hprog.kept o₀ ho₀
    exact ⟨o', ho', hid'.trans hid₀⟩
  by_cases hmoves : r.orderId = orderId ∧ status ∈ ReturnStatus.moved
  · -- the return is the only one of its order that has moved it
    obtain ⟨hro, hm⟩ := hmoves
    have honly : ∀ x ∈ s.data.returns, x.orderId = orderId → x.status ∈ ReturnStatus.moved →
        action = .refund ∧ x = r := by
      intro x hx hxo hxm
      rcases decideReturn_moved hnext hm with ⟨rfl, -, -⟩ | ⟨rfl, hcurrent, -⟩
      · have hoff := h.off x hx hxo hxm o ho (hoid.trans hro)
        exact absurd (ht.edge .refunding rfl) (not_refunding_of_offChain hoff)
      · exact ⟨rfl, h.once x hx r hr hxo hro hxm (by rw [hcurrent]; decide)⟩
    have hfirst : ∀ x ∈ s'.data.returns, x.orderId = orderId → x.status ∈ ReturnStatus.moved →
        x = r₁ := by
      intro x hx hxo hxm
      rcases hcases x hx with heq | ⟨hx, hne⟩
      · exact heq
      · exact absurd (congrArg ReturnOrder.id (honly x hx hxo hxm).2) hne
    refine ⟨hkeys, fun x hx y hy hxo hyo hxm hym => ?_, fun x hx hxo hxm o' ho' hid => ?_, hknown, ?_⟩
    · rw [hfirst x hx hxo hxm, hfirst y hy hyo hym]
    · have horders := ht.orders
      have htarget : ∃ target ∈ UnifiedStatus.offChain, action.target = some target := by
        rcases decideReturn_moved hnext hm with ⟨rfl, -, -⟩ | ⟨rfl, -, -⟩
        · exact ⟨.refunding, by decide, rfl⟩
        · exact ⟨.refunded, by decide, rfl⟩
      obtain ⟨target, hoff, htarget⟩ := htarget
      rw [htarget] at horders
      have horders : s'.data.orders = put SalesOrder.id { o with unifiedStatus := target }
        s.data.orders := horders
      rw [horders] at ho'
      rcases mem_put.mp ho' with rfl | ⟨-, hne⟩
      · exact hoff
      · exact absurd (hid.trans (hoid.trans hro).symm) hne
    · have hzero : n = 0 := by
        rcases h.posted with hzero | ⟨-, x, hx, hxo, hxst⟩
        · exact hzero
        · obtain ⟨-, rfl⟩ := honly x hx hxo (by rw [hxst]; decide)
          rw [hxst, decideReturn_refunded] at hnext
          cases hnext
      rw [hzero, Nat.zero_add]
      rcases hk with hk | ⟨hk, rfl, -⟩
      · exact .inl hk
      · rcases decideReturn_moved hnext hm with ⟨hno, -, -⟩ | ⟨-, -, hst⟩
        · cases hno
        · exact .inr ⟨hk, r₁, hnew, hro, hst⟩
  · -- no return of the order is moved that was not before
    have hold : ∀ x ∈ s'.data.returns, x.orderId = orderId → x.status ∈ ReturnStatus.moved →
        x ∈ s.data.returns := by
      intro x hx hxo hxm
      rcases hcases x hx with rfl | ⟨hx, -⟩
      · exact absurd ⟨hxo, hxm⟩ hmoves
      · exact hx
    have hk : k = 0 := by
      rcases hk with hk | ⟨-, rfl, hro⟩
      · exact hk
      · refine absurd ⟨hro, ?_⟩ hmoves
        revert hnext
        cases r.status <;> cases status <;> decide
    rw [hk, Nat.add_zero]
    refine ⟨hkeys, fun x hx y hy hxo hyo hxm hym => ?_, fun x hx hxo hxm o' ho' hid => ?_, hknown, ?_⟩
    · exact h.once x (hold x hx hxo hxm) y (hold y hy hyo hym) hxo hyo hxm hym
    · obtain ⟨o₀, ho₀, hid₀⟩ := h.known x (hold x hx hxo hxm) hxo
      exact (hprog.follows o₀ ho₀ o' ho' (hid.trans hid₀.symm)).offChain
        (h.off x (hold x hx hxo hxm) hxo hxm o₀ ho₀ hid₀)
    · rcases h.posted with hzero | ⟨hone, x, hx, hxo, hxst⟩
      · exact .inl hzero
      · refine .inr ⟨hone, x, hkeep x hx fun heq => ?_, hxo, hxst⟩
        rw [← h.ids.eq_of_key_eq hx hr heq, hxst, decideReturn_refunded] at hnext
        cases hnext

/-- Every move keeps what moves need, and moves the orders along. -/
lemma Fit.move (h : Fit c d) (hl : Worker d l) (m : Move) :
    Fit c (m.work.commit l d) ∧ Progress d (m.work.commit l d) := by
  cases m with
  | ingest intake order =>
    obtain ⟨hfit, hprog, -⟩ := h.ingest hl intake order
    exact ⟨hfit, hprog⟩
  | ship dispatch orderId =>
    obtain ⟨hfit, hprog, -⟩ := h.ship hl dispatch orderId
    exact ⟨hfit, hprog⟩
  | createReturn orderId payload =>
    obtain ⟨hfit, horders, -⟩ := h.createReturn hl orderId payload
    exact ⟨hfit, .of_eq h.ordersWf.ids horders⟩
  | transitionReturn returnId action userId =>
    obtain ⟨-, hsame⟩ | ⟨hfit, r, -, -, o, ho, -, s', hd, ht⟩ :=
      h.transitionReturn hl returnId action userId
    · rw [hsame]
      exact ⟨h, .of_eq h.ordersWf.ids rfl⟩
    · have hprog := ht.progress h.ordersWf.ids ho
      rw [← hd] at hprog
      exact ⟨hfit, hprog⟩

/-- What a move keeps of the law if it has put nothing back. -/
lemma ReturnsWf.of_not_posts {m : Move} (hposts : m.posts l d orderId = false)
    (h : ReturnsWf orderId n d') : ReturnsWf orderId (n + (m.posts l d orderId).toNat) d' := by
  rw [hposts, Bool.toNat_false, Nat.add_zero]
  exact h

/-- An action on a return that puts goods of the order back is a refund of one of its returns. -/
lemma posts_cases {returnId userId : ℕ} {action : ReturnAction} {r : ReturnOrder}
    (hids : Keyed ReturnOrder.id d.returns) (hr : r ∈ d.returns) (hid : r.id = returnId) :
    ((Move.transitionReturn returnId action userId).posts l d orderId).toNat = 0 ∨
      ((Move.transitionReturn returnId action userId).posts l d orderId).toNat = 1 ∧
        action = .refund ∧ r.orderId = orderId := by
  cases hposts : (Move.transitionReturn returnId action userId).posts l d orderId with
  | false => exact .inl rfl
  | true =>
    cases action with
    | approve => cases hposts
    | reject => cases hposts
    | refund =>
      simp only [Move.posts, Bool.and_eq_true, List.any_eq_true, decide_eq_true_eq] at hposts
      obtain ⟨-, x, hx, ⟨hxid, hxo⟩, -⟩ := hposts
      rw [hids.eq_of_key_eq hx hr (hxid.trans hid.symm)] at hxo
      exact .inr ⟨rfl, rfl, hxo⟩

/-- Every move keeps the law for the returns. -/
lemma ReturnsWf.move (h : ReturnsWf orderId n d) (hf : Fit c d) (hl : Worker d l)
    (hids : ∀ r ∈ d.returns, ∀ k, r.id ≠ l.ids k) (m : Move) :
    ReturnsWf orderId (n + (m.posts l d orderId).toNat) (m.work.commit l d) := by
  have hfit := hf.move hl m
  cases m with
  | ingest intake order =>
    exact .of_not_posts rfl (h.of_eq hfit.2 (hf.ingest hl intake order).2.2)
  | ship dispatch orderId' =>
    exact .of_not_posts rfl (h.of_eq hfit.2 (hf.ship hl dispatch orderId').2.2)
  | createReturn orderId' payload =>
    obtain ⟨-, horders, hreturns | hreq⟩ := hf.createReturn hl orderId' payload
    · exact .of_not_posts rfl (h.of_eq hfit.2 hreturns)
    · exact .of_not_posts rfl (h.of_requested hids horders hreq)
  | transitionReturn returnId action userId =>
    obtain ⟨hfail, hsame⟩ | ⟨-, r, hr, hid, o, ho, hoid, s', hd, ht⟩ :=
      hf.transitionReturn hl returnId action userId
    · refine .of_not_posts ?_ (hsame.symm ▸ h)
      cases action with
      | approve => rfl
      | reject => rfl
      | refund => simp only [Move.posts, hfail, Bool.false_and]
    · rw [hd]
      exact h.of_transitioned hf.ordersWf.ids hr ho hoid ht (posts_cases h.ids hr hid)

/-- A refunded return is not touched again. -/
lemma refunded_stays (hkeys : Keyed ReturnOrder.id d.returns) (hf : Fit c d) (hl : Worker d l)
    (m : Move) {r : ReturnOrder} (hr : r ∈ d.returns) (hst : r.status = .refunded) :
    r ∈ (m.work.commit l d).returns := by
  cases m with
  | ingest intake order =>
    rw [(hf.ingest hl intake order).2.2]
    exact hr
  | ship dispatch orderId =>
    rw [(hf.ship hl dispatch orderId).2.2]
    exact hr
  | createReturn orderId payload =>
    obtain ⟨-, -, hreturns | ⟨new, hreturns, -⟩⟩ := hf.createReturn hl orderId payload
    · rw [hreturns]
      exact hr
    · rw [hreturns]
      exact List.mem_append_left _ hr
  | transitionReturn returnId action userId =>
    obtain ⟨-, hsame⟩ | ⟨-, r', hr', -, o, -, -, s', hd, ht⟩ :=
      hf.transitionReturn hl returnId action userId
    · rw [hsame]
      exact hr
    · obtain ⟨status, restocked, hnext, hreturns⟩ := ht.status
      rw [hd, hreturns]
      refine mem_alter_of_ne hr fun heq => ?_
      rw [← hkeys.eq_of_key_eq hr hr' heq, hst, decideReturn_refunded] at hnext
      cases hnext

/-- What holds of a run up to a state. -/
structure Held (c : ℕ → ℕ → ℤ) (orderId n : ℕ) (d : Db) : Prop where
  fit : Fit c d
  returns : ReturnsWf orderId n d

lemma Held.run {d₀ : Db} {n₀ : ℕ} (h : Held c orderId n₀ d₀) (hrun : Run orderId d₀ n d) :
    Held c orderId (n₀ + n) d := by
  induction hrun with
  | start => exact h
  | move m l _ hl hids ih =>
    rw [← Nat.add_assoc]
    exact ⟨(ih.fit.move hl m).1, ih.returns.move ih.fit hl hids m⟩

/-- Along a run, an order stays among statuses that are closed under what may follow. -/
lemma Held.closed {d₀ : Db} {n₀ : ℕ} (h : Held c orderId n₀ d₀) (hrun : Run orderId d₀ n d)
    {S : List UnifiedStatus} (hS : ∀ current next, Follows current next → current ∈ S → next ∈ S)
    {o : SalesOrder} (ho : o ∈ d₀.orders) (hst : o.unifiedStatus ∈ S) :
    ∃ o' ∈ d.orders, o'.id = o.id ∧ o'.unifiedStatus ∈ S := by
  induction hrun with
  | start => exact ⟨o, ho, rfl, hst⟩
  | move m l hrun hl hids ih =>
    obtain ⟨o', ho', hid, hst'⟩ := ih
    have hprog := ((h.run hrun).fit.move hl m).2
    obtain ⟨o'', ho'', hid'⟩ := hprog.kept o' ho'
    exact ⟨o'', ho'', hid'.trans hid, hS _ _ (hprog.follows o' ho' o'' ho'' hid') hst'⟩

/-- A refunded return stays as it is. -/
lemma Held.refunded {d₀ : Db} {n₀ : ℕ} (h : Held c orderId n₀ d₀) (hrun : Run orderId d₀ n d)
    {r : ReturnOrder} (hr : r ∈ d₀.returns) (hst : r.status = .refunded) : r ∈ d.returns := by
  induction hrun with
  | start => exact hr
  | move m l hrun hl hids ih =>
    have hheld := h.run hrun
    exact refunded_stays hheld.returns.ids hheld.fit hl m ih hst

/-- Rows that are all the same row are at most one. -/
lemma length_le_one {rows : List ReturnOrder} (hids : Keyed ReturnOrder.id rows)
    (h : ∀ r ∈ rows, ∀ r' ∈ rows, r = r') : rows.length ≤ 1 := by
  match rows with
  | [] => simp
  | [r] => simp
  | r :: r' :: rest =>
    have heq := h r (by simp) r' (by simp)
    rw [heq] at hids
    exact absurd hids (by simp [Keyed])

/-- Statuses that a cancelled order may take, and those that one with a refund or a return may. -/
lemma follows_cancelled : ∀ current next, Follows current next →
    current ∈ [UnifiedStatus.cancelled] → next ∈ [UnifiedStatus.cancelled] := by
  rintro current next (rfl | ⟨source, hallowed⟩) hc
  · exact hc
  · rw [List.mem_singleton.mp hc, not_allowed_cancelled] at hallowed
    cases hallowed

lemma follows_refunded : ∀ current next, Follows current next →
    current ∈ [UnifiedStatus.refunded, .returned] → next ∈ [UnifiedStatus.refunded, .returned] := by
  rintro current next (rfl | ⟨source, hallowed⟩) hc
  · exact hc
  · revert hallowed hc
    cases source <;> cases current <;> cases next <;> decide

/-- Over every run from a state without returns of the order, at most one of its returns is
refunded, for good, and at most one move puts its goods back. A cancelled order stays cancelled,
one that was refunded or returned stays so, and one that is being refunded does not go back. -/
theorem Run.refunded_once {d₀ d₁ d₂ : Db} {m : ℕ} (hbooks : InBooks c d₀) (hw : OrdersWf d₀)
    (hkeys : Keyed ReturnOrder.id d₀.returns) (hnone : ∀ r ∈ d₀.returns, r.orderId ≠ orderId)
    (h₁ : Run orderId d₀ n d₁) (h₂ : Run orderId d₁ m d₂) :
    (d₂.returns.filter fun r => r.orderId = orderId ∧ r.status = .refunded).length ≤ 1 ∧
    (∀ r ∈ d₁.returns, r.status = .refunded → r ∈ d₂.returns) ∧
    n + m ≤ 1 ∧
    ∀ o₁ ∈ d₁.orders, ∃ o₂ ∈ d₂.orders, o₂.id = o₁.id ∧
      (o₁.unifiedStatus = .cancelled → o₂.unifiedStatus = .cancelled) ∧
      (o₁.unifiedStatus ∈ [UnifiedStatus.refunded, .returned] →
        o₂.unifiedStatus ∈ [UnifiedStatus.refunded, .returned]) ∧
      (o₁.unifiedStatus = .refunding →
        o₂.unifiedStatus ∈ [UnifiedStatus.refunding, .refunded, .returned]) := by
  have h₀ : Held c orderId 0 d₀ := by
    refine ⟨⟨hbooks, hw⟩, hkeys, ?_, ?_, ?_, .inl rfl⟩
    · exact fun r hr _ _ ho _ _ _ => absurd ho (hnone r hr)
    · exact fun r hr ho _ => absurd ho (hnone r hr)
    · exact fun r hr ho => absurd ho (hnone r hr)
  have hheld₁ := h₀.run h₁
  have hheld₂ := hheld₁.run h₂
  refine ⟨?_, fun r hr hst => hheld₁.refunded h₂ hr hst, ?_, fun o ho => ?_⟩
  · refine length_le_one ((List.filter_sublist.map _).nodup hheld₂.returns.ids) ?_
    intro r hr r' hr'
    simp only [List.mem_filter, decide_eq_true_eq] at hr hr'
    obtain ⟨hr, hro, hst⟩ := hr
    obtain ⟨hr', hro', hst'⟩ := hr'
    exact hheld₂.returns.once r hr r' hr' hro hro' (by rw [hst]; decide) (by rw [hst']; decide)
  · rw [Nat.zero_add] at hheld₂
    rcases hheld₂.returns.posted with hzero | ⟨hone, -⟩
    · omega
    · omega
  · obtain ⟨o₂, ho₂, hid⟩ : ∃ o₂ ∈ d₂.orders, o₂.id = o.id := by
      obtain ⟨o₂, ho₂, hid, -⟩ := hheld₁.closed h₂ (S := UnifiedStatus.all)
        (fun _ next _ _ => by cases next <;> decide) ho (by cases o.unifiedStatus <;> decide)
      exact ⟨o₂, ho₂, hid⟩
    have hclosed : ∀ S : List UnifiedStatus,
        (∀ current next, Follows current next → current ∈ S → next ∈ S) →
        o.unifiedStatus ∈ S → o₂.unifiedStatus ∈ S := by
      intro S hS hst
      obtain ⟨o', ho', hid', hst'⟩ := hheld₁.closed h₂ hS ho hst
      rwa [hheld₂.fit.ordersWf.ids.eq_of_key_eq ho' ho₂ (hid'.trans hid.symm)] at hst'
    refine ⟨o₂, ho₂, hid, fun hst => ?_, hclosed _ follows_refunded, fun hst => ?_⟩
    · simpa using hclosed _ follows_cancelled (by simp [hst])
    · exact hclosed _ (fun _ _ hf => hf.offChain) (by rw [hst]; decide)

/-- A worker that draws the ids from `base` on can make the next move of a run. -/
lemma Run.next {d₀ : Db} (m : Move) (base : ℕ) (hrun : Run orderId d₀ n d) (hbelow : Below base d)
    (hids : ∀ r ∈ d.returns, r.id < base) :
    Run orderId d₀ (n + (m.posts (newWorker base) d orderId).toNat)
      (m.work.commit (newWorker base) d) := by
  refine .move m (newWorker base) hrun (worker_newWorker hbelow) fun r hr k heq => ?_
  have hlt := hids r hr
  rw [heq] at hlt
  simp [newWorker] at hlt

end runs

/-- The order of `returnShop`, before its buyer asks for anything. -/
def quietShop : Db := { returnShop with returns := [] }

def brokenGoods : ReturnWrite := ⟨"broken", 0, true, true⟩

def askedShop : Db := (Move.createReturn 6 brokenGoods).work.commit (newWorker 100) quietShop

def approvedShop : Db := (Move.transitionReturn 100 .approve 9).work.commit (newWorker 200) askedShop

def refundedShop : Db :=
  (Move.transitionReturn 100 .refund 9).work.commit (newWorker 300) approvedShop

lemma inBooks_quietShop : InBooks (fun _ _ => 0) quietShop := by
  have hb := inBooks_returnShop.books (l := newWorker) (worker_newWorker (by decide))
  have hquiet : Books (fun _ _ => 0) ⟨newWorker, quietShop, []⟩ :=
    hb.of_frame rfl rfl rfl rfl rfl
  exact hquiet.inBooks

lemma run_approvedShop : Run 6 quietShop 0 approvedShop := by
  have hasked : Run 6 quietShop 0 askedShop :=
    Run.next (.createReturn 6 brokenGoods) 100 .start (by decide) (by decide)
  exact Run.next (.transitionReturn 100 .approve 9) 200 hasked (by decide +kernel)
    (by decide +kernel)

/-- A refund that puts goods back, after a run that has put none back. -/
lemma Run.refund {d₀ : Db} (hrun : Run 6 d₀ 0 approvedShop) : Run 6 d₀ 1 refundedShop := by
  have hposts : (Move.transitionReturn 100 .refund 9).posts (newWorker 300) approvedShop 6 := by
    decide +kernel
  have hnext := Run.next (.transitionReturn 100 .refund 9) 300 hrun (by decide +kernel)
    (by decide +kernel)
  rw [hposts] at hnext
  exact hnext

/-- The return of the run is refunded, and its goods are back. -/
theorem refunded_once_quietShop :
    refundedShop.returns.map (fun r => (r.status, r.restockStatus)) = [(.refunded, .posted)] ∧
      (refundedShop.returns.filter fun r =>
        r.orderId = 6 ∧ r.status = .refunded).length ≤ 1 := by
  have honce := Run.refunded_once inBooks_quietShop ⟨by decide, by decide⟩ (by decide) (by decide)
    run_approvedShop (Run.refund .start)
  exact ⟨by decide +kernel, honce.1⟩

/-- The platform reports the goods of the order as returned. -/
def returnedSnapshot : UnifiedOrder :=
  { paidSnapshot with platformStatus := "RETURNED", updatedAt := 2 }

def returnIntake : Intake := { linkedIntake with table := [("RETURNED", "RETURNED")] }

/-- A refunded order becomes a returned one. -/
theorem refunded_left_refundedShop :
    let d := (Move.ingest returnIntake returnedSnapshot).work.commit (newWorker 400) refundedShop
    Run 6 quietShop 1 refundedShop ∧ refundedShop.orders.map (·.unifiedStatus) = [.refunded] ∧
      Run 6 quietShop 1 d ∧ d.orders.map (·.unifiedStatus) = [.returned] := by
  have hrefunded := Run.refund run_approvedShop
  refine ⟨hrefunded, by decide +kernel, ?_, by decide +kernel⟩
  exact Run.next (.ingest returnIntake returnedSnapshot) 400 hrefunded (by decide +kernel)
    (by decide +kernel)

end CrossPilot
