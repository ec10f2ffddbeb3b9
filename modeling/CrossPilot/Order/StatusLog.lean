import CrossPilot.Inventory.Spared
import CrossPilot.Order.ByHand

/-!
# The status log

Ingesting a snapshot, shipping by hand and returns each move an order on a path of their own, and
each adds a line to the status log. A snapshot that is refused, or says what is known, adds none and
leaves the status. One after the other, they keep the log of an order a chain of changes from no
status to the one in its row (`StatusRun.chained`).

An order of a page that fails in the step for the stock is passed over with its status and its line;
one that fails earlier has neither. An order whose shipping fails loses both with its savepoint.
-/

namespace CrossPilot

open Transaction Table Prog

/-! ### Chains -/

/-- The lines lead from no status to this one: each is a change, and begins with the status that the
line before it ended in. -/
structure StatusChain (lines : List OrderStatusLog) (status : UnifiedStatus) : Prop where
  first : lines.head?.map (·.fromStatus) = some none
  linked : lines.IsChain fun line next => next.fromStatus = some line.toStatus
  changes : ∀ line ∈ lines, line.fromStatus ≠ some line.toStatus
  last : lines.getLast?.map (·.toStatus) = some status

/-- What is logged of an order with this status. A new order has none, and no line. -/
def LeadsTo (lines : List OrderStatusLog) : Option UnifiedStatus → Prop
  | none => lines = []
  | some status => StatusChain lines status

/-- A change from where the log has led. -/
lemma LeadsTo.append {lines : List OrderStatusLog} {line : OrderStatusLog}
    (h : LeadsTo lines line.fromStatus) (hne : line.fromStatus ≠ some line.toStatus) :
    StatusChain (lines ++ [line]) line.toStatus := by
  cases hfrom : line.fromStatus with
  | none =>
    rw [hfrom] at h
    obtain rfl : lines = [] := h
    exact ⟨by simp [hfrom], List.isChain_singleton line, by simpa using hne, rfl⟩
  | some status =>
    rw [hfrom] at h
    obtain ⟨hfirst, hlinked, hchanges, hlast⟩ : StatusChain lines status := h
    refine ⟨?_, List.isChain_append.mpr ⟨hlinked, List.isChain_singleton line, ?_⟩, ?_, by simp⟩
    · cases lines with
      | nil => cases hfirst
      | cons _ _ => exact hfirst
    · intro before hbefore next hnext
      obtain rfl : line = next := by simpa using hnext
      rw [Option.mem_def.mp hbefore] at hlast
      rw [hfrom]
      exact hlast.symm
    · intro l hl
      rcases List.mem_append.mp hl with hl | hl
      · exact hchanges l hl
      · rw [List.mem_singleton.mp hl]
        exact hne

/-- The lines of an order, in the order they were written. -/
def logOf (d : Db) (orderId : ℕ) : List OrderStatusLog :=
  d.statusLogs.filter fun line => line.orderId = orderId

/-- The log of every order leads to its status. Lines belong to orders. -/
structure Chronicled (d : Db) : Prop where
  ordersWf : OrdersWf d
  owned : ∀ line ∈ d.statusLogs, ∃ o ∈ d.orders, o.id = line.orderId
  chain : ∀ o ∈ d.orders, StatusChain (logOf d o.id) o.unifiedStatus

namespace Chronicled

variable {d d' : Db} {row : SalesOrder}

lemma of_eq (h : Chronicled d) (horders : d'.orders = d.orders)
    (hlogs : d'.statusLogs = d.statusLogs) : Chronicled d' := by
  refine ⟨⟨?_, ?_⟩, ?_, ?_⟩
  · rw [horders]
    exact h.ordersWf.ids
  · rw [horders]
    exact h.ordersWf.keys
  · rw [horders, hlogs]
    exact h.owned
  · unfold logOf
    rw [horders, hlogs]
    exact h.chain

/-- An order gets a new row, and lines that lead to its status. -/
lemma put {lines : List OrderStatusLog} (h : Chronicled d) (hw : OrdersWf d')
    (horders : d'.orders = put SalesOrder.id row d.orders)
    (hlogs : d'.statusLogs = d.statusLogs ++ lines) (hlines : ∀ line ∈ lines, line.orderId = row.id)
    (hchain : StatusChain (logOf d row.id ++ lines) row.unifiedStatus) : Chronicled d' := by
  refine ⟨hw, fun line hline => ?_, fun o ho => ?_⟩
  · rw [horders]
    rw [hlogs] at hline
    rcases List.mem_append.mp hline with hold | hnew
    · obtain ⟨o, ho, hid⟩ := h.owned line hold
      by_cases hrow : o.id = row.id
      · exact ⟨row, mem_put.mpr (.inl rfl), hrow.symm.trans hid⟩
      · exact ⟨o, mem_put.mpr (.inr ⟨ho, hrow⟩), hid⟩
    · exact ⟨row, mem_put.mpr (.inl rfl), (hlines line hnew).symm⟩
  · rw [horders] at ho
    rcases mem_put.mp ho with rfl | ⟨hold, hne⟩
    · have hall : lines.filter (fun line => line.orderId = o.id) = lines :=
        List.filter_eq_self.mpr fun line hline => by simpa using hlines line hline
      rw [logOf, hlogs, List.filter_append, hall]
      exact hchain
    · have hnone : lines.filter (fun line => line.orderId = o.id) = [] := by
        refine List.filter_eq_nil_iff.mpr fun line hline => ?_
        rw [hlines line hline]
        simpa using hne.symm
      rw [logOf, hlogs, List.filter_append, hnone, List.append_nil]
      exact h.chain o hold

/-- A row is overwritten by one with the same status. -/
lemma put_same {o : SalesOrder} (h : Chronicled d) (ho : o ∈ d.orders) (hid : row.id = o.id)
    (hkey : row.idempotencyKey = o.idempotencyKey) (hstatus : row.unifiedStatus = o.unifiedStatus)
    (horders : d'.orders = Table.put SalesOrder.id row d.orders)
    (hlogs : d'.statusLogs = d.statusLogs) : Chronicled d' := by
  have hlines : d'.statusLogs = d.statusLogs ++ [] := by rw [hlogs, List.append_nil]
  refine h.put ⟨?_, ?_⟩ horders hlines (by simp) ?_
  · rw [horders]
    exact h.ordersWf.ids.put row
  · rw [horders]
    refine h.ordersWf.keys.put_of h.ordersWf.ids fun o' ho' hk => ?_
    rw [h.ordersWf.keys.eq_of_key_eq ho' ho (hk.trans hkey), hid]
  · rw [List.append_nil, hid, hstatus]
    exact h.chain o ho

/-- Nothing is logged of an order that there is not. -/
lemma logOf_eq_nil (h : Chronicled d) {orderId : ℕ} (hnew : ∀ o ∈ d.orders, o.id ≠ orderId) :
    logOf d orderId = [] := by
  refine List.filter_eq_nil_iff.mpr fun line hline => ?_
  obtain ⟨o, ho, hid⟩ := h.owned line hline
  rw [← hid]
  simpa using hnew o ho

end Chronicled

/-- A worker draws ids that no order has. -/
structure Unused (l : Session) (d : Db) : Prop where
  injective : Function.Injective l.ids
  order_ne : ∀ n, ∀ o ∈ d.orders, o.id ≠ l.ids n

lemma Unused.drawn {l l' : Session} {d d' : Db} (h : Unused l d) (hdrawn : l.Drawn l')
    (horders : d'.orders = d.orders) : Unused l' d' := by
  obtain ⟨k, hk⟩ := hdrawn
  refine ⟨fun m n hmn => ?_, fun n => ?_⟩
  · rw [hk, hk] at hmn
    have := h.injective hmn
    omega
  · rw [horders, hk]
    exact h.order_ne _

/-- Where a transaction stands between two orders. -/
structure OnRecord (s : WorkState) : Prop where
  book : Chronicled s.data
  unused : Unused s.session s.data

/-! ### Other tables -/

/-- The orders and the status log are as they were. -/
structure Aside (s s' : WorkState) : Prop where
  orders : s'.data.orders = s.data.orders
  logs : s'.data.statusLogs = s.data.statusLogs
  drawn : s.session.Drawn s'.session
  marks : s'.marks = s.marks

lemma OnRecord.aside {s s' : WorkState} (h : OnRecord s) (ha : Aside s s') : OnRecord s' :=
  ⟨h.book.of_eq ha.orders ha.logs, h.unused.drawn ha.drawn ha.orders⟩

/-- Ids that were drawn for what has been undone are not drawn again. -/
lemma OnRecord.rolledBack {s s' : WorkState} (h : OnRecord s) (hdata : s'.data = s.data)
    (hdrawn : s.session.Drawn s'.session) : OnRecord s' :=
  ⟨h.book.of_eq (by rw [hdata]) (by rw [hdata]), h.unused.drawn hdrawn (by rw [hdata])⟩

/-- The orders and the status log, taken for one row. -/
def statusBook : Row Db RowKey (List SalesOrder × List OrderStatusLog) where
  lock := .orderKey ""
  seen d := (d.orders, d.statusLogs)
  absent := ([], [])
  Final _ := True

lemma foreignRow_statusBook : ForeignRow statusBook where
  balance_ne _ h := by cases h
  hold_ne _ h := by cases h
  holdOf_ne _ h := by cases h
  balances _ _ := rfl
  ledger _ _ := rfl
  holds _ _ := rfl

section aside

variable {α : Type} {p : Work α} {s : WorkState}

lemma wp_aside (hp : p.Spares statusBook Session.Drawn) :
    p.wp (fun _ => Aside s) (fun _ => Aside s) s := by
  have hspares := hp.wp Session.Drawn.refl Session.Drawn.trans s
  refine wp_mono hspares (fun _ s' h => ?_) fun _ s' h => ?_
  · exact ⟨congrArg Prod.fst h.1, congrArg Prod.snd h.1, h.2.1, h.2.2⟩
  · exact ⟨congrArg Prod.fst h.1, congrArg Prod.snd h.1, h.2.1, h.2.2⟩

lemma spares_saveShipment (shipment : Shipment) :
    (saveShipment shipment).Spares statusBook Session.Drawn :=
  ForeignRow.spares_saveShipment (fun _ hlock => by cases hlock) (fun _ _ => rfl) shipment

end aside

/-! ### Ingesting -/

@[simp] lemma Intake.resolve_fromStatus (intake : Intake) (order : UnifiedOrder)
    (current : Option UnifiedStatus) : (intake.resolve order current).fromStatus = current :=
  decideStatus_fromStatus _ _ _

/-- A decision applies if and only if it changes the status. -/
lemma Intake.resolve_apply_iff {intake : Intake} {order : UnifiedOrder}
    {current : Option UnifiedStatus} : (intake.resolve order current).kind = .apply ↔
      current ≠ some (intake.resolve order current).toStatus := by
  unfold Intake.resolve
  cases current with
  | none => simp
  | some status =>
    constructor
    · intro happly
      obtain ⟨t, -, hne, -, heq⟩ := decideStatus_apply_iff.mp happly
      rw [heq]
      simpa using hne.symm
    · intro hne
      by_contra happly
      rw [decideStatus_toStatus_of_ne happly] at hne
      exact hne rfl

section ingest

variable {intake : Intake} {order : UnifiedOrder} {row : SalesOrder} {s s₁ : WorkState}
  {E : ServiceError → WorkState → Prop} {decision : StatusDecision}

/-- The review is another column. -/
lemma wp_applyReview_onRecord (h : OnRecord s) (hrow : row ∈ s.data.orders) :
    (applyReview row).wp (fun _ => OnRecord) E s := by
  refine wp_applyReview h.book.ordersWf hrow fun status s' hs' => ?_
  subst hs'
  refine ⟨h.book.put_same hrow ?_ ?_ ?_ rfl rfl, h.unused.injective, fun n o ho => ?_⟩
  · rfl
  · rfl
  · rfl
  · rcases mem_put.mp ho with rfl | ⟨hold, -⟩
    · exact h.unused.order_ne n row hrow
    · exact h.unused.order_ne n o hold

/-- A snapshot has been stored in a row whose log leads to where its decision starts from. -/
lemma wp_afterUpsert_onRecord {current : Option UnifiedStatus} {j k : ℕ} (h : OnRecord s)
    (hr : Rewritten intake.column order row j k s s₁) (hw : OrdersWf s₁.data)
    (hnew : ∀ n, row.id ≠ s.session.ids (n + k)) (hstart : LeadsTo (logOf s.data row.id) current)
    (hstatus : row.unifiedStatus = (intake.resolve order current).toStatus) :
    (afterUpsert intake order row (some (intake.resolve order current))).wp (fun _ => OnRecord)
      (fun _ => OnRecord) s₁ := by
  have hlogs : s₁.data.statusLogs = s.data.statusLogs := by rw [hr.frame]
  have hrow : row ∈ s₁.data.orders := by
    rw [hr.orders]
    exact mem_put.mpr (.inl rfl)
  have hunused : Unused s₁.session s₁.data := by
    have hids : s.session.Drawn s₁.session := ⟨k, fun _ => by rw [hr.session]; rfl⟩
    have hdrawn : Unused s₁.session s.data := h.unused.drawn hids rfl
    refine ⟨hdrawn.injective, fun n o ho => ?_⟩
    rw [hr.orders] at ho
    rcases mem_put.mp ho with rfl | ⟨hold, -⟩
    · rw [hr.session]
      exact hnew n
    · exact hdrawn.order_ne n o hold
  unfold afterUpsert
  by_cases happly : (intake.resolve order current).kind = .apply
  · have hchain : ∀ line : OrderStatusLog, line.fromStatus = current →
        line.toStatus = row.unifiedStatus →
          StatusChain (logOf s.data row.id ++ [line]) row.unifiedStatus := by
      intro line hfrom hto
      rw [← hto]
      refine LeadsTo.append (by rwa [hfrom]) ?_
      rw [hfrom, hto, hstatus]
      exact Intake.resolve_apply_iff.mp happly
    simp only [Option.filter_some, happly, decide_true, if_true, bind_eq, logDecision, appendLog,
      wp_bind, wp_nextSnowflakeId, wp_insert]
    refine wp_mono (wp_applyReview_onRecord ⟨?_, ?_⟩ hrow) (fun _ s₂ h₂ => ?_) fun _ _ h => h
    · refine h.book.put ⟨hw.ids, hw.keys⟩ hr.orders (congrArg (· ++ _) hlogs) (by simp) ?_
      exact hchain _ (Intake.resolve_fromStatus _ _ _) hstatus.symm
    · exact hunused.drawn ⟨1, fun _ => rfl⟩ rfl
    · have hstock := foreignRow_statusBook.spares_syncInventory row.id (intake.resolve order current)
      exact wp_mono (wp_aside hstock) (fun _ _ ha => h₂.aside ha) fun _ _ ha => h₂.aside ha
  · -- the status is the one there was
    have hsame : current = some row.unifiedStatus := by
      rw [hstatus]
      by_contra hne
      exact happly (Intake.resolve_apply_iff.mpr hne)
    rw [hsame] at hstart
    have hnone : s₁.data.statusLogs = s.data.statusLogs ++ [] := by rw [hlogs, List.append_nil]
    simp only [Option.filter_some, happly, decide_false, Bool.false_eq_true, if_false]
    refine wp_applyReview_onRecord ⟨h.book.put hw hr.orders hnone (by simp) ?_, hunused⟩ hrow
    rw [List.append_nil]
    exact hstart

/-- A snapshot that is ingested, or fails, leaves the logs in order. -/
lemma maintains_ingestOrder (intake : Intake) (order : UnifiedOrder) :
    Maintains OnRecord (ingestOrder intake order) := by
  intro s h
  rw [ingestOrder, bind_eq, wp_bind]
  cases hkey : order.key intake.shop with
  | none =>
    rw [orderKey, hkey]
    exact h
  | some key =>
    rw [wp_orderKey hkey, bind_eq, wp_bind]
    have hw := h.book.ordersWf
    refine wp_upsert hw (h.unused.order_ne 0) hkey (fun _ _ _ _ => h) ?_ ?_
    · intro row s₁ k hnone hrow hr
      have hid : row.id = s.session.ids 0 := by simp [hrow, newOrder]
      have hrowKey : row.idempotencyKey = key := by simp [hrow, newOrder]
      have hw₁ := hr.ordersWf hw fun o ho hk => absurd (hk.trans hrowKey) (hnone o ho)
      refine wp_afterWrite (by decide) hw₁ (hr.orders ▸ mem_put.mpr (.inl rfl)) hrowKey ?_
      refine wp_afterUpsert_onRecord h hr hw₁ (fun n heq => ?_) ?_ (by simp [hrow, newOrder])
      · have := h.unused.injective (hid.symm.trans heq)
        have := hr.drawn
        omega
      · rw [hid]
        exact h.book.logOf_eq_nil (h.unused.order_ne 0)
    · intro existing hmem hek _ row s₁ k hrow hr
      have hid : row.id = existing.id := by simp [hrow]
      have hrowKey : row.idempotencyKey = key := by simp [hrow, hek]
      have hw₁ := hr.ordersWf hw fun o ho hk => by
        rw [hw.keys.eq_of_key_eq ho hmem (hk.trans (hrowKey.trans hek.symm)), hid]
      refine wp_afterWrite (by decide) hw₁ (hr.orders ▸ mem_put.mpr (.inl rfl)) hrowKey ?_
      refine wp_afterUpsert_onRecord h hr hw₁ (fun n => ?_) ?_ (by simp [hrow])
      · rw [hid]
        exact h.unused.order_ne _ existing hmem
      · rw [hid]
        exact h.book.chain existing hmem

/-- An order that fails is passed over as it stands. -/
lemma maintains_ingestPage (intake : Intake) (orders : List UnifiedOrder) :
    Maintains OnRecord (ingestPage intake orders) := by
  refine Maintains.forEach fun order _ => ?_
  have hkey : Maintains OnRecord (orderKey intake.shop order) := maintains_orRaise _ _
  refine hkey.bind fun _ => Maintains.attempt ?_ fun e => ?_
  · exact (maintains_ingestOrder intake order).bind fun _ => .ret ()
  · exact maintains_ite (.fail e) (.ret ())

end ingest

/-! ### Moves by hand -/

section byHand

variable {held : SalesOrder} {s : WorkState} {E : ServiceError → WorkState → Prop}

/-- An order is moved along an edge, and the move is logged. -/
lemma wp_saveAndLog_onRecord (row : SalesOrder) {platformStatus : String} {operatorId : Option ℕ}
    {source : StatusChangeSource} {remark : Option String} (h : OnRecord s)
    (hmem : held ∈ s.data.orders) (hid : row.id = held.id)
    (hkey : row.idempotencyKey = held.idempotencyKey) (hmerge : held.merge row held = row)
    (hne : held.unifiedStatus ≠ row.unifiedStatus) :
    (saveOrder held row).wp (fun _ => (appendLog held.id (some held.unifiedStatus)
      row.unifiedStatus platformStatus operatorId source remark).wp (fun _ => OnRecord) E) E s := by
  have hw := h.book.ordersWf
  rw [wp_saveOrder hw.ids hmem hid hmerge]
  simp only [appendLog, bind_eq, wp_bind, wp_nextSnowflakeId, wp_insert]
  refine ⟨h.book.put ⟨hw.ids.put row, hw.keys.put_of hw.ids fun o ho hk => ?_⟩ rfl rfl
    (by simp [hid]) ?_, ?_⟩
  · rw [hw.keys.eq_of_key_eq ho hmem (hk.trans hkey), hid]
  · rw [hid]
    refine LeadsTo.append (h.book.chain held hmem) ?_
    simpa using hne
  · refine ⟨fun m n hmn => by simpa using h.unused.injective hmn, fun n o ho => ?_⟩
    rcases mem_put.mp ho with rfl | ⟨hold, -⟩
    · rw [hid]
      exact h.unused.order_ne _ held hmem
    · exact h.unused.order_ne _ o hold

/-- The attempt to ship an order, behind its savepoint. -/
lemma wp_commitSuccess_onRecord {dispatch : Dispatch} {target : ShipTarget} {trackingNo : String}
    {attempt : ℕ} (h : OnRecord s) (hmem : held ∈ s.data.orders)
    (htarget : target.orderId = held.id) (hpaid : held.unifiedStatus = .paid) :
    (commitSuccess dispatch target held trackingNo attempt).wp (fun _ => OnRecord)
      (fun _ s' => s.session.Drawn s'.session ∧ s'.marks = s.marks) s := by
  have hplain := (plain_commitSuccess dispatch target held trackingNo attempt).wp
    Session.Drawn.refl Session.Drawn.trans s
  refine wp_mono (wp_and (Q := fun _ => OnRecord) (E := fun _ _ => True) ?_ hplain)
    (fun _ _ h => h.1) fun _ _ h => h.2
  have hfind : s.data.orders.find? (fun o => o.id = target.orderId) = some held :=
    (find?_eq_some_iff h.book.ordersWf.ids).mpr ⟨hmem, htarget.symm⟩
  unfold commitSuccess
  rw [bind_eq, wp_bind, getOrder, wp_select, hfind]
  simp only [bind_eq, wp_bind]
  refine wp_mono (wp_saveAndLog_onRecord (E := fun _ _ => True)
    { held with unifiedStatus := .shipped, shippedAt := some dispatch.now } h hmem rfl rfl ?_ ?_)
    (fun _ s₁ h₁ => wp_mono h₁ (fun _ s₂ h₂ => ?_) fun _ _ _ => trivial) fun _ _ _ => trivial
  · simp [SalesOrder.merge, written_self]
  · rw [hpaid]
    simp
  · refine wp_mono (wp_aside (spares_saveShipment _)) (fun _ s₃ h₃ => ?_) fun _ _ _ => trivial
    have hship := foreignRow_statusBook.spares_shipOrder held.id
    exact wp_mono (wp_aside hship) (fun _ _ h₄ => (h₂.aside h₃).aside h₄) fun _ _ _ => trivial

/-- What the attempt changed is undone, and the failure is recorded with the shipment. -/
lemma wp_recordFailure_onRecord {s₁ : WorkState} {dispatch : Dispatch} {target : ShipTarget}
    {message : String} {attempt : ℕ} (h : OnRecord s) (hdrawn : s.session.Drawn s₁.session)
    (hmarks : s₁.marks = s.data :: s.marks) :
    expire.wp (fun _ => (recordFailure dispatch target message attempt).wp (fun _ => OnRecord) E) E
      { s₁ with data := s₁.marks.headD s₁.data, marks := s₁.marks.tail } := by
  rw [expire, wp_remember, recordFailure, wp_nested]
  refine wp_mono (wp_aside (spares_saveShipment _)) (fun _ s₂ h₂ => ?_) fun _ s₂ h₂ => ?_
  · have hback : OnRecord { s₁ with
        session := { s₁.session with seen := [] }
        data := s₁.marks.headD s₁.data
        marks := s₁.marks.headD s₁.data :: s₁.marks.tail } :=
      h.rolledBack (by simp [hmarks]) hdrawn
    have hend := hback.aside h₂
    exact ⟨hend.book, hend.unused⟩
  · rw [h₂.marks]
    exact h.rolledBack (by simp [hmarks]) (hdrawn.trans h₂.drawn)

/-- An order that is shipped, or not, leaves the logs in order. -/
lemma maintains_shipOne (dispatch : Dispatch) (orderId : ℕ) :
    Maintains OnRecord (shipOne dispatch orderId) := by
  intro s h
  unfold shipOne loadTarget
  simp only [bind_eq, wp_bind, getOrder, wp_select]
  cases hfind : s.data.orders.find? fun o => o.id = orderId with
  | none => exact h
  | some held =>
    obtain ⟨hmem, hid⟩ := (find?_eq_some_iff h.book.ordersWf.ids).mp hfind
    simp only [wp_bind, getShipment, wp_select, pure_eq, wp_ret]
    cases hrefuse : (refuseShip held.unifiedStatus).or (reviewBlocksShip held.reviewStatus) with
    | some reason => exact h
    | none =>
      have hpaid := refuseShip_eq_none (Option.or_eq_none_iff.mp hrefuse).1
      have hmark : OnRecord { s with marks := s.data :: s.marks } := h.rolledBack rfl (.refl _)
      simp only [wp_nested, wp_bind, wp_ret, pushAndCommit]
      cases dispatch.push _ dispatch.carrier _ with
      | error e => exact wp_recordFailure_onRecord h (.refl _) rfl
      | ok _ =>
        refine wp_mono (wp_commitSuccess_onRecord hmark hmem rfl hpaid) (fun _ s₁ h₁ => ?_)
          fun e s₁ h₁ => ?_
        · exact ⟨h₁.book, h₁.unused⟩
        · exact wp_recordFailure_onRecord h h₁.1 h₁.2

lemma maintains_runShipBatch (dispatch : Dispatch) (orderIds : List ℕ) :
    Maintains OnRecord (runShipBatch dispatch orderIds) := by
  induction orderIds with
  | nil => exact .ret []
  | cons orderId rest ih =>
    exact (maintains_shipOne dispatch orderId).bind fun _ => ih.bind fun _ => .ret _

lemma maintains_batchShip (dispatch : Dispatch) (orderIds : List ℕ) :
    Maintains OnRecord (batchShip dispatch orderIds) := by
  unfold batchShip checkBatchSize
  refine Maintains.bind ?_ fun _ => ?_
  · exact maintains_ite (.fail _) (maintains_ite (.fail _) (.ret ()))
  · exact maintains_ite (.fail _) (maintains_runShipBatch _ _)

lemma wp_moveOrder_onRecord {target : UnifiedStatus} {userId : ℕ} {remark : String}
    (h : OnRecord s) (hmem : held ∈ s.data.orders) :
    (moveOrder held target userId remark).wp (fun _ => OnRecord) (fun _ _ => True) s := by
  unfold moveOrder
  by_cases happly : (decideStatus (some held.unifiedStatus) (some target) .manual).kind = .apply
  · obtain ⟨t, ht, hne, -, -⟩ := decideStatus_apply_iff.mp happly
    obtain rfl : target = t := Option.some.inj ht
    rw [if_neg (not_not.mpr happly), bind_eq, wp_bind]
    refine wp_saveAndLog_onRecord { held with unifiedStatus := target } h hmem rfl rfl ?_ hne.symm
    simp [SalesOrder.merge, written_self]
  · rw [if_pos happly]
    trivial

lemma wp_returnEffect_chronicled {r : ReturnOrder} {action : ReturnAction} {userId : ℕ}
    (h : OnRecord s) (hmem : held ∈ s.data.orders) :
    (returnEffect r held action userId).wp (fun _ s' => Chronicled s'.data) (fun _ _ => True)
      s := by
  cases action with
  | reject => exact h.book
  | approve =>
    rw [returnEffect, bind_eq, wp_bind]
    exact wp_mono (wp_moveOrder_onRecord h hmem) (fun _ _ h₁ => h₁.book) fun _ _ _ => trivial
  | refund =>
    rw [returnEffect, bind_eq, wp_bind]
    refine wp_mono (wp_moveOrder_onRecord h hmem) (fun _ s₁ h₁ => ?_) fun _ _ _ => trivial
    unfold restock
    dsimp only
    split
    · refine wp_mono (onlyStock_receiveReturn _ s₁ ⟨rfl, rfl⟩) (fun _ s₂ h₂ => ?_)
        fun _ _ _ => trivial
      exact h₁.book.of_eq (by rw [h₂.frame]) (by rw [h₂.frame])
    · exact h₁.book

/-- An action on a return that succeeds leaves the logs in order. -/
lemma wp_transitionReturn_chronicled {returnId : ℕ} {action : ReturnAction} {userId : ℕ}
    (h : OnRecord s) : (transitionReturn returnId action userId).wp
      (fun _ s' => Chronicled s'.data) (fun _ _ => True) s := by
  rw [transitionReturn, bind_eq, wp_bind, wp_select]
  cases hfind : s.data.returns.find? fun r => r.id = returnId with
  | none => trivial
  | some r =>
    simp only [orRaise, pure_eq, bind_eq, wp_bind, wp_ret]
    cases hnext : decideReturn r.status action with
    | none => trivial
    | some status =>
      simp only [wp_ret]
      refine wp_deskOrder h.book.ordersWf.ids (fun o ho _ => ?_) fun _ => trivial
      refine wp_mono (wp_returnEffect_chronicled h ho) (fun _ _ h₁ => ?_) fun _ _ _ => trivial
      exact h₁.of_eq rfl rfl

/-- What an operator makes of a review is another column. -/
lemma wp_decideReview_chronicled {orderId : ℕ} {decision : ReviewDecision} (h : Chronicled s.data) :
    (decideReview orderId decision).wp (fun _ s' => Chronicled s'.data) (fun _ _ => True) s := by
  rw [decideReview, bind_eq, wp_bind]
  refine wp_deskOrder h.ordersWf.ids (fun o ho _ => ?_) fun _ => trivial
  split
  · trivial
  · refine (wp_saveOrder h.ordersWf.ids ho ?_ ?_).mpr ?_
    · rfl
    · simp [SalesOrder.merge, written_self]
    · refine h.put_same ho ?_ ?_ ?_ rfl rfl
      · rfl
      · rfl
      · rfl

end byHand

/-! ### Runs -/

/-- What is asked of the orders. A page is ingested in one transaction. -/
inductive OrderTask
  | ingestPage (intake : Intake) (orders : List UnifiedOrder)
  | ingestOrder (intake : Intake) (order : UnifiedOrder)
  | batchShip (dispatch : Dispatch) (orderIds : List ℕ)
  | createReturn (orderId : ℕ) (payload : ReturnWrite)
  | transitionReturn (returnId : ℕ) (action : ReturnAction) (userId : ℕ)
  | decideReview (orderId : ℕ) (decision : ReviewDecision)

def OrderTask.work : OrderTask → Work Unit
  | ingestPage intake orders => CrossPilot.ingestPage intake orders
  | ingestOrder intake order => do let _ ← CrossPilot.ingestOrder intake order
  | batchShip dispatch orderIds => do let _ ← CrossPilot.batchShip dispatch orderIds
  | createReturn orderId payload => do let _ ← CrossPilot.createReturn orderId payload
  | transitionReturn returnId action userId => CrossPilot.transitionReturn returnId action userId
  | decideReview orderId decision => CrossPilot.decideReview orderId decision

lemma Chronicled.task {d : Db} {l : Session} (h : Chronicled d) (hl : Unused l d) (t : OrderTask) :
    Chronicled (t.work.commit l d) := by
  have hs : OnRecord ⟨l, d, []⟩ := ⟨h, hl⟩
  have hkeep : t.work.wp (fun _ s' => Chronicled s'.data) (fun _ _ => True) ⟨l, d, []⟩ := by
    cases t with
    | ingestPage intake orders =>
      exact wp_mono (maintains_ingestPage intake orders _ hs) (fun _ _ h => h.book)
        fun _ _ _ => trivial
    | ingestOrder intake order =>
      rw [OrderTask.work, bind_eq, wp_bind]
      exact wp_mono (maintains_ingestOrder intake order _ hs) (fun _ _ h => h.book)
        fun _ _ _ => trivial
    | batchShip dispatch orderIds =>
      rw [OrderTask.work, bind_eq, wp_bind]
      exact wp_mono (maintains_batchShip dispatch orderIds _ hs) (fun _ _ h => h.book)
        fun _ _ _ => trivial
    | createReturn orderId payload =>
      rw [OrderTask.work, bind_eq, wp_bind]
      refine wp_createReturn h.ordersWf.ids (fun _ _ _ _ _ _ => ?_) fun _ => trivial
      exact h.of_eq rfl rfl
    | transitionReturn returnId action userId => exact wp_transitionReturn_chronicled hs
    | decideReview orderId decision => exact wp_decideReview_chronicled h
  rcases commit_cases hkeep with ⟨-, hfail⟩ | hdone
  · rw [hfail]
    exact h
  · exact hdone

/-- Tasks happen one after the other, each in a transaction of its own, and the rest of the system
writes the other tables. -/
inductive StatusRun (d₀ : Db) : Db → Prop
  | start : StatusRun d₀ d₀
  | task {d : Db} (t : OrderTask) (l : Session) : StatusRun d₀ d → Unused l d →
    StatusRun d₀ (t.work.commit l d)
  | elsewhere {d d' : Db} : StatusRun d₀ d → d'.orders = d.orders → d'.statusLogs = d.statusLogs →
    StatusRun d₀ d'

/-- In every state of a run, the log of an order is a chain of changes from no status to the one in
its row. -/
theorem StatusRun.chained {d₀ d : Db} (hd : Chronicled d₀) (hrun : StatusRun d₀ d) :
    ∀ o ∈ d.orders, StatusChain (logOf d o.id) o.unifiedStatus := by
  have hbook : Chronicled d := by
    induction hrun with
    | start => exact hd
    | task t l _ hl ih => exact ih.task hl t
    | elsewhere _ horders hlogs ih => exact ih.of_eq horders hlogs
  exact hbook.chain

/-! ### A sale -/

def saleIntake : Intake where
  table := [("AWAITING_SHIPMENT", "PAID")]
  shop := { id := 4, platformCode := "tiktok" }

def saleSnapshot : UnifiedOrder where
  platformOrderId := "A"
  platformStatus := "AWAITING_SHIPMENT"
  items := []
  updatedAt := 1

/-- The order has been paid. -/
def paidSale : Db := (OrderTask.ingestOrder saleIntake saleSnapshot).work.commit (newWorker 100) {}

/-- The order has been shipped by hand. -/
def shippedSale : Db :=
  (OrderTask.batchShip ⟨fun _ _ _ => .ok (), "UPS", 1, 2⟩ [100]).work.commit (newWorker 200)
    paidSale

lemma unused_newWorker {base : ℕ} {d : Db} (h : ∀ o ∈ d.orders, o.id < base) :
    Unused (newWorker base) d := by
  refine ⟨fun m n hmn => by simpa [newWorker] using hmn, fun n o ho heq => ?_⟩
  have := h o ho
  simp only [newWorker] at heq
  omega

theorem chained_shippedSale : StatusChain (logOf shippedSale 100) .shipped ∧
    (logOf shippedSale 100).map (fun line => (line.fromStatus, line.toStatus)) =
      [(none, .paid), (some .paid, .shipped)] := by
  have hempty : Chronicled {} := ⟨⟨List.nodup_nil, List.nodup_nil⟩, by simp, by simp⟩
  have hrun : StatusRun {} shippedSale :=
    .task _ _ (.task _ _ .start (unused_newWorker (by simp))) (unused_newWorker (by decide +kernel))
  have hrow : ∃ o ∈ shippedSale.orders, o.id = 100 ∧ o.unifiedStatus = .shipped := by
    decide +kernel
  obtain ⟨o, ho, hid, hstatus⟩ := hrow
  have hchain := StatusRun.chained hempty hrun o ho
  rw [hid, hstatus] at hchain
  exact ⟨hchain, by decide +kernel⟩

end CrossPilot
