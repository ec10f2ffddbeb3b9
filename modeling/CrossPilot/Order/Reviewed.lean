import CrossPilot.Inventory.Spared
import CrossPilot.Order.Stored

/-!
# What an operator has decided

Storing a snapshot brings the review of its order up to date from the rules, unless an operator has
decided. It goes by the review it read before it stored anything, and writes the column if the
outcome differs from that.
-/

namespace CrossPilot

open Transaction Table Prog

/-- The reviews in the rows of an order. The id is the primary key: there is one row at most. -/
def reviewsOf (orderId : ℕ) (d : Db) : List ReviewStatus :=
  (d.orders.filter fun order => order.id = orderId).map SalesOrder.reviewStatus

/-- What an operator decides. -/
def ReviewStatus.decisions : List ReviewStatus := [.approved, .rejected]

/-- The one row of the order has been decided by an operator. -/
def Decided (reviews : List ReviewStatus) : Prop := ∃ s ∈ ReviewStatus.decisions, reviews = [s]

instance : DecidablePred Decided := fun reviews =>
  inferInstanceAs (Decidable (∃ s ∈ ReviewStatus.decisions, reviews = [s]))

/-- The row of an order, for its review. -/
def reviewRow (orderId : ℕ) : Row Db RowKey (List ReviewStatus) where
  lock := .order orderId
  seen := reviewsOf orderId
  absent := []
  Final := Decided

instance (orderId : ℕ) : DecidablePred (reviewRow orderId).Final :=
  inferInstanceAs (DecidablePred Decided)

lemma not_decided_absent (orderId : ℕ) :
    ¬ (reviewRow orderId).Final (reviewRow orderId).absent := by
  rintro ⟨s, -, hs⟩
  cases hs

lemma foreignRow_reviewRow (orderId : ℕ) : ForeignRow (reviewRow orderId) where
  balance_ne _ h := by cases h
  hold_ne _ h := by cases h
  holdOf_ne _ h := by cases h
  balances _ _ := rfl
  ledger _ _ := rfl
  holds _ _ := rfl

lemma mem_reviewsOf {orderId : ℕ} {d : Db} {order : SalesOrder} (horder : order ∈ d.orders)
    (hid : order.id = orderId) : order.reviewStatus ∈ reviewsOf orderId d :=
  List.mem_map_of_mem (List.mem_filter.mpr ⟨horder, by simpa using hid⟩)

/-- A new row of another order. -/
lemma reviewsOf_append {orderId : ℕ} {d : Db} {order : SalesOrder} (hid : order.id ≠ orderId) :
    reviewsOf orderId { d with orders := d.orders ++ [order] } = reviewsOf orderId d := by
  simp [reviewsOf, hid]

@[simp] lemma merge_id (loaded changed stored : SalesOrder) :
    (loaded.merge changed stored).id = stored.id := rfl

/-- What an UPDATE of an order makes of a review. -/
lemma reviewsOf_saveOrder (orderId : ℕ) (d : Db) (loaded changed : SalesOrder) :
    reviewsOf orderId
        { d with orders := alter SalesOrder.id loaded.id (loaded.merge changed) d.orders } =
      if loaded.id = orderId then
        (reviewsOf orderId d).map (written loaded.reviewStatus changed.reviewStatus)
      else reviewsOf orderId d := by
  have hkeeps : ∀ stored, (loaded.merge changed stored).id = stored.id := merge_id loaded changed
  simp only [reviewsOf, filter_alter hkeeps]
  split
  · rw [List.map_map, List.map_map]
    rfl
  · rfl

lemma applyStatus_reviewStatus (row : SalesOrder) (order : UnifiedOrder)
    (decision : StatusDecision) :
    (applyStatus row order decision).reviewStatus = row.reviewStatus := by
  by_cases h : decision.kind = .apply <;> simp [applyStatus, stamp, h]

lemma map_written_self (review : ReviewStatus) (reviews : List ReviewStatus) :
    reviews.map (written review review) = reviews := by
  have hsame : written review review = id := funext fun stored => if_pos rfl
  rw [hsame, List.map_id]

/-- An operator's decision is no longer pending. -/
lemma not_pending_mem {reviews : List ReviewStatus} (h : Decided reviews) : .pending ∉ reviews := by
  obtain ⟨s, hs, rfl⟩ := h
  intro hmem
  rw [← List.mem_singleton.mp hmem] at hs
  cases hs with
  | tail _ hs => cases hs with
    | tail _ hs => cases hs

/-- The rules do not go over what an operator has decided. -/
lemma nextReviewStatus_of_decided {reviews : List ReviewStatus} (h : Decided reviews)
    {review : ReviewStatus} (hmem : review ∈ reviews) (total : ℚ) (currency : String)
    (rules : List OrderReviewRule) : nextReviewStatus review total currency rules = review := by
  obtain ⟨s, hs, rfl⟩ := h
  rw [List.mem_singleton.mp hmem]
  exact if_pos hs

/-! ### What a transaction knows of the review -/

/-- What a worker knows of the row of an order. -/
abbrev ReviewKnowledge := Knowledge Session (List ReviewStatus)

/-- A worker between two statements. The order is none of those that it adds. -/
structure Informed (orderId : ℕ) (marks : List (Option (List ReviewStatus × List ReviewStatus)))
    (σ : ReviewKnowledge) : Prop where
  keeps : σ.Keeps (reviewRow orderId)
  undrawn : ∀ n, σ.session.ids n ≠ orderId
  marks : σ.marks = marks

/-- The row is locked with a value `y`. If it was decided when the lock was taken, then it is as it
was, and the worker has read this review. -/
def Rests (review : ReviewStatus) (y : List ReviewStatus × List ReviewStatus) : Prop :=
  y.2 ≠ [] ∧ (Decided y.1 → y.2 = y.1 ∧ review ∈ y.1)

section knowledge

variable {orderId : ℕ} {σ : ReviewKnowledge}
  {marks : List (Option (List ReviewStatus × List ReviewStatus))} {review : ReviewStatus}
  {y : List ReviewStatus × List ReviewStatus}

/-- A row of the order that is read has the review that the worker has seen last. -/
lemma mem_current {d : Db} {order : SalesOrder} (horder : order ∈ d.orders)
    (hid : order.id = orderId) (hd : σ.Sees (reviewRow orderId) d) :
    order.reviewStatus ∈ (σ.looked ((reviewRow orderId).seen d)).current := by
  have hmem : order.reviewStatus ∈ (reviewRow orderId).seen d := mem_reviewsOf horder hid
  unfold Knowledge.current
  rw [Knowledge.held_looked]
  cases hheld : σ.held with
  | none =>
    rw [σ.looked_of_none hheld]
    exact hmem
  | some y =>
    rw [hd y hheld] at hmem
    exact hmem

/-- What the lock finds. -/
lemma rests_of_finds (hkeeps : σ.Keeps (reviewRow orderId)) (hreview : review ∈ σ.current)
    (hy : σ.Finds (reviewRow orderId) y) : Rests review y := by
  unfold Knowledge.Finds at hy
  unfold Knowledge.current at hreview
  cases hheld : σ.held with
  | none =>
    simp only [hheld] at hy hreview
    obtain ⟨hsame, hthere, hread⟩ := hy
    refine ⟨hsame ▸ hthere, fun hdecided => ⟨hsame.symm, ?_⟩⟩
    rcases hread with hread | hnot
    · rw [hread]
      exact hreview
    · exact absurd hdecided hnot
  | some z =>
    simp only [hheld] at hy hreview
    subst hy
    obtain ⟨hthere, hfinal⟩ := hkeeps y hheld
    refine ⟨hthere, fun hdecided => ⟨hfinal hdecided, ?_⟩⟩
    rw [← hfinal hdecided]
    exact hreview

lemma Rests.keeps (h : Rests review y) (hheld : σ.held = some y) :
    σ.Keeps (reviewRow orderId) := by
  intro z hz
  obtain rfl : y = z := Option.some.inj (hheld.symm.trans hz)
  exact ⟨h.1, fun hdecided => (h.2 hdecided).1⟩

lemma Informed.looked (h : Informed orderId marks σ) (v : List ReviewStatus) :
    Informed orderId marks (σ.looked v) := by
  refine ⟨?_, ?_, ?_⟩
  · unfold Knowledge.Keeps
    rw [Knowledge.held_looked]
    exact h.keeps
  · rw [Knowledge.session_looked]
    exact h.undrawn
  · rw [Knowledge.marks_looked]
    exact h.marks

/-- Ids have been drawn. -/
lemma Informed.drawn {σ' : ReviewKnowledge} (h : Informed orderId marks σ)
    (hdrawn : σ.session.Drawn σ'.session) (hheld : σ'.held = σ.held) (hmarks : σ'.marks = σ.marks) :
    Informed orderId marks σ' := by
  obtain ⟨k, hk⟩ := hdrawn
  refine ⟨?_, fun n => ?_, hmarks.trans h.marks⟩
  · unfold Knowledge.Keeps
    rw [hheld]
    exact h.keeps
  · rw [hk]
    exact h.undrawn _

end knowledge

/-! ### Statements -/

/-- What is asked of a row that has been stored: if it is that of the order, then it is locked. -/
def Locked (orderId : ℕ) (row : SalesOrder) (σ : ReviewKnowledge) : Prop :=
  row.id = orderId → ∃ y, σ.held = some y ∧ Rests row.reviewStatus y

/-- What an upsert leaves. -/
def LeftLocked (orderId : ℕ) (marks : List (Option (List ReviewStatus × List ReviewStatus)))
    (r : Upserted) (σ : ReviewKnowledge) : Prop :=
  Informed orderId marks σ ∧ ∀ row ∈ r.2.2, Locked orderId row σ

section statements

variable {orderId : ℕ} {σ : ReviewKnowledge}
  {marks : List (Option (List ReviewStatus × List ReviewStatus))} {α : Type}

lemma heeds_saveOrder {loaded changed : SalesOrder} {Q : Unit → ReviewKnowledge → Prop}
    {E : ServiceError → ReviewKnowledge → Prop}
    (hother : loaded.id ≠ orderId ∨ changed = loaded → Q () σ)
    (hown : loaded.id = orderId → changed ≠ loaded → (σ.held = none → σ.read ≠ []) ∧
      ∀ y, σ.Finds (reviewRow orderId) y → Q () { σ with
        held := some (y.1, y.2.map (written loaded.reviewStatus changed.reviewStatus)) }) :
    (saveOrder loaded changed).Heeds (reviewRow orderId) Q E σ := by
  have hseen := fun d => reviewsOf_saveOrder orderId d loaded changed
  intro d _
  refine ⟨fun hlock => ?_, fun hlock => ?_⟩
  · have hcases : loaded.id ≠ orderId ∨ changed = loaded := by
      by_contra hnot
      push Not at hnot
      refine hlock ?_
      rw [if_neg hnot.2, hnot.1]
      exact List.mem_singleton_self _
    refine ⟨fun d' => (hseen d').trans ?_, fun _ _ => hother hcases⟩
    rcases hcases with hid | rfl
    · exact if_neg hid
    · rw [map_written_self, ite_self]
      rfl
  · have hne : changed ≠ loaded := by
      rintro rfl
      rw [if_pos rfl] at hlock
      cases hlock
    have hid : loaded.id = orderId := by
      rw [if_neg hne] at hlock
      injection List.mem_singleton.mp hlock with hid
      exact hid.symm
    obtain ⟨hread, hQ⟩ := hown hid hne
    exact ⟨hread, _, fun d' => (hseen d').trans (if_pos hid), fun y hy _ _ => hQ y hy⟩

lemma heeds_spared {p : Work α} (hp : p.Spares (reviewRow orderId) Session.Drawn)
    (h : Informed orderId marks σ) :
    p.Heeds (reviewRow orderId) (fun _ σ' => Informed orderId marks σ' ∧ σ'.held = σ.held)
      (fun _ => Informed orderId marks) σ :=
  hp.heeds Session.Drawn.refl Session.Drawn.trans
    (fun _ _ hdrawn hheld hmarks => ⟨h.drawn hdrawn hheld hmarks, hheld⟩)
    fun _ _ hdrawn hheld hmarks => h.drawn hdrawn hheld hmarks

lemma spares_addItems (column : SkuColumn) (row : SalesOrder) (items : List UnifiedOrderItem) :
    (Prog.forEach items (addItem column row)).Spares (reviewRow orderId) Session.Drawn :=
  .forEach fun _ _ => ForeignRow.spares_nextSnowflakeId.bind fun _ => .insert fun _ => rfl

lemma spares_replaceFees (row : SalesOrder) (order : UnifiedOrder) :
    (replaceFees row order).Spares (reviewRow orderId) Session.Drawn := by
  refine (Prog.Spares.update (fun d hlock => ?_) fun _ _ => rfl).bind fun _ => .forEach fun _ _ =>
    ForeignRow.spares_nextSnowflakeId.bind fun _ => .insert fun _ => rfl
  obtain ⟨f, -, hf⟩ := List.mem_map.mp hlock
  cases hf

lemma spares_addOrder {row : SalesOrder} (hne : row.id ≠ orderId) :
    (addOrder row).Spares (reviewRow orderId) Session.Drawn := by
  refine (Prog.Spares.update (fun _ hlock => ?_) fun _ d => ?_).bind fun violated => ?_
  · cases List.mem_singleton.mp hlock
  · split
    · rfl
    · exact reviewsOf_append hne
  · cases violated with
    | true => exact .fail _
    | false => exact .ret ()

variable {column : SkuColumn} {shop : Shop} {order : UnifiedOrder} {key : String}
  {resolve : Option UnifiedStatus → StatusDecision}

/-- The items are deleted, the row is written, and what follows is on other rows. -/
lemma heeds_replaceChildren {row : SalesOrder} {pending : Work Unit} {Q : ReviewKnowledge → Prop}
    (hpending : pending.Heeds (reviewRow orderId) (fun _ σ' => Informed orderId marks σ' ∧
      ∀ σ'', σ''.held = σ'.held → Q σ'') (fun _ => Informed orderId marks) σ) :
    (replaceChildren column row order pending).Heeds (reviewRow orderId)
      (fun _ σ' => Informed orderId marks σ' ∧ Q σ') (fun _ => Informed orderId marks) σ := by
  have hitems : (Prog.update (fun d => (d.items.filter fun i => i.orderId = row.id).map fun i =>
      RowKey.item i.id) (fun ts (d : Db) => { d with
        items := d.items.filter fun i => ¬ (RowKey.item i.id ∈ ts ∧ i.orderId = row.id) })
      fun _ _ => () : Work Unit).Heeds (reviewRow orderId) (fun _ σ' => σ' = σ)
        (fun _ => Informed orderId marks) σ := by
    refine heeds_update_aside (fun d hlock => ?_) (fun _ _ => rfl) fun _ => rfl
    obtain ⟨i, -, hi⟩ := List.mem_map.mp hlock
    cases hi
  have hall : (replaceItems column row order pending).Heeds (reviewRow orderId)
      (fun _ σ' => Informed orderId marks σ' ∧ ∀ σ'', σ''.held = σ'.held → Q σ'')
      (fun _ => Informed orderId marks) σ := by
    refine hitems.bind fun _ _ hσ => ?_
    subst hσ
    refine hpending.bind fun _ σ₁ h₁ => ?_
    refine heeds_mono (heeds_spared (spares_addItems column row order.items) h₁.1)
      (fun _ σ₂ h₂ => ⟨h₂.1, fun σ' hσ' => h₁.2 σ' (hσ'.trans h₂.2)⟩) fun _ _ h => h
  refine hall.bind fun _ σ₁ h₁ => ?_
  exact heeds_mono (heeds_spared (spares_replaceFees row order) h₁.1)
    (fun _ σ₂ h₂ => ⟨h₂.1, h₁.2 σ₂ h₂.2⟩) fun _ _ h => h

/-- A stored row of the order is locked, with the review it had when it was read. -/
lemma heeds_overwrite {existing : SalesOrder} (h : Informed orderId marks σ)
    (hread : existing.id = orderId → existing.reviewStatus ∈ σ.current)
    (hnewer : existing.platformUpdatedAt ≠ some order.updatedAt) :
    (overwrite column existing order resolve).Heeds (reviewRow orderId) (LeftLocked orderId marks)
      (fun _ => Informed orderId marks) σ := by
  let row := applyStatus existing order (resolve (some existing.unifiedStatus))
  have hreview : row.reviewStatus = existing.reviewStatus := applyStatus_reviewStatus _ _ _
  have hchanged : row ≠ existing := by
    intro heq
    rw [← heq, applyStatus_platformUpdatedAt] at hnewer
    exact hnewer rfl
  refine (heeds_replaceChildren (Q := Locked orderId row) ?_).bind fun _ σ' h' => ?_
  · refine heeds_saveOrder (fun hother => ⟨h, fun σ' _ hid => ?_⟩) fun hid _ => ⟨fun hheld => ?_,
      fun y hy => ?_⟩
    · rcases hother with hne | heq
      · exact absurd ((applyStatus_id _ _ _).symm.trans hid) hne
      · exact absurd heq hchanged
    · have hmem := hread hid
      rw [Knowledge.current, hheld] at hmem
      exact List.ne_nil_of_mem hmem
    · have hrests := rests_of_finds h.keeps (hread hid) hy
      rw [hreview, map_written_self]
      refine ⟨⟨hrests.keeps rfl, h.undrawn, h.marks⟩, fun σ' hheld _ => ⟨y, hheld, ?_⟩⟩
      rw [hreview]
      exact hrests
  · refine ⟨h'.1, fun row' hrow' => ?_⟩
    obtain rfl : row = row' := Option.some.inj hrow'
    exact h'.2

lemma heeds_nextSnowflakeId (h : Informed orderId marks σ) :
    nextSnowflakeId.Heeds (reviewRow orderId)
      (fun id σ' => Informed orderId marks σ' ∧ id ≠ orderId) (fun _ => Informed orderId marks) σ :=
  fun _ _ => ⟨(h.looked _).drawn ⟨1, fun _ => rfl⟩ rfl rfl, h.undrawn 0⟩

/-- A new order is another one. -/
lemma heeds_insertNew (h : Informed orderId marks σ) :
    (insertNew column shop order key resolve).Heeds (reviewRow orderId) (LeftLocked orderId marks)
      (fun _ => Informed orderId marks) σ := by
  refine (heeds_nextSnowflakeId h).bind fun id σ' ⟨h', hid⟩ => ?_
  generalize hrow : newOrder _ shop order key (resolve none) = row
  have hne : row.id ≠ orderId := by
    rw [← hrow]
    simpa [newOrder] using hid
  refine (heeds_spared (spares_addOrder hne) h').bind fun _ σ₁ h₁ => ?_
  have hnothing : (ret () : Work Unit).Heeds (reviewRow orderId)
      (fun _ σ' => Informed orderId marks σ' ∧ ∀ σ'' : ReviewKnowledge, σ''.held = σ'.held → True)
      (fun _ => Informed orderId marks) σ₁ :=
    ⟨h₁.1, fun _ _ => trivial⟩
  refine (heeds_replaceChildren hnothing).bind fun _ σ₂ h₂ => ?_
  refine ⟨h₂.1, fun row' hrow' hid => ?_⟩
  obtain rfl : row = row' := Option.some.inj hrow'
  exact absurd hid hne

/-- Every row that is stored is locked, if it is that of the order. -/
lemma heeds_raced {e : ServiceError} (h : Informed orderId marks σ) :
    (raced column order key resolve e).Heeds (reviewRow orderId) (LeftLocked orderId marks)
      (fun _ => Informed orderId marks) σ := by
  unfold raced
  split
  · exact h
  · simp only [getByKey, bind_eq, heeds_bind, heeds_select]
    intro d hd
    cases hfind : d.orders.find? fun o => o.idempotencyKey = key with
    | none => exact h.looked _
    | some row =>
      dsimp only
      split
      · exact ⟨h.looked _, by simp⟩
      · rename_i hdecide
        refine heeds_overwrite (h.looked _) (fun hid => ?_) fun hsame => hdecide ?_
        · exact mem_current (List.mem_of_find?_eq_some hfind) hid hd
        · rw [hsame]
          simp [decideWrite]

/-- After an error what is held is as it was before. -/
lemma heeds_stored {p : Work Upserted} (h : Informed orderId marks σ)
    (hp : p.Heeds (reviewRow orderId) (LeftLocked orderId (σ.held :: marks))
      (fun _ => Informed orderId (σ.held :: marks)) { σ with marks := σ.held :: σ.marks }) :
    (nested p (raced column order key resolve)).Heeds (reviewRow orderId) (LeftLocked orderId marks)
      (fun _ => Informed orderId marks) σ := by
  rw [heeds_nested]
  refine heeds_mono hp (fun r σ' h' => ⟨⟨h'.1.keeps, h'.1.undrawn, ?_⟩, h'.2⟩) fun e σ' h' => ?_
  · rw [h'.1.marks]
    rfl
  · refine heeds_raced ?_
    rw [h'.marks]
    exact ⟨h.keeps, h'.undrawn, rfl⟩

lemma heeds_upsert (h : Informed orderId marks σ) :
    (upsert column shop order resolve).Heeds (reviewRow orderId) (LeftLocked orderId marks)
      (fun _ => Informed orderId marks) σ := by
  have hkey : (orderKey shop order).Spares (reviewRow orderId) Session.Drawn :=
    ForeignRow.spares_orRaise _ _
  refine (heeds_spared hkey h).bind fun key σ₁ h₁ => ?_
  rw [bind_eq, heeds_bind, getByKey, heeds_select]
  intro d hd
  have hlooked := h₁.1.looked ((reviewRow orderId).seen d)
  split
  · exact ⟨hlooked, by simp⟩
  · rename_i hdecide
    refine heeds_stored hlooked ?_
    have hmark : Informed orderId ((σ₁.looked ((reviewRow orderId).seen d)).held :: marks)
        { σ₁.looked ((reviewRow orderId).seen d) with
          marks := (σ₁.looked ((reviewRow orderId).seen d)).held ::
            (σ₁.looked ((reviewRow orderId).seen d)).marks } :=
      ⟨hlooked.keeps, hlooked.undrawn, by rw [hlooked.marks]⟩
    cases hfind : d.orders.find? fun o => o.idempotencyKey = key with
    | none => exact heeds_insertNew hmark
    | some row =>
      rw [hfind, Option.bind_some] at hdecide
      refine heeds_overwrite hmark (fun hid => ?_) fun hsame => hdecide ?_
      · exact mem_current (List.mem_of_find?_eq_some hfind) hid hd
      · rw [hsame]
        simp [decideWrite]

/-- The review of a row that has just been stored. -/
lemma heeds_applyReview {row : SalesOrder} (h : Informed orderId marks σ)
    (hlocked : Locked orderId row σ) :
    (applyReview row).Heeds (reviewRow orderId) (fun _ => Informed orderId marks)
      (fun _ => Informed orderId marks) σ := by
  simp only [applyReview, bind_eq, heeds_bind, heeds_select]
  intro d _
  have hlooked := h.looked ((reviewRow orderId).seen d)
  refine heeds_saveOrder (fun _ => hlooked) fun hid _ => ?_
  obtain ⟨y, hheld, hthere, hdecided⟩ := hlocked hid
  have hsame : (σ.looked ((reviewRow orderId).seen d)).held = some y := by
    rw [Knowledge.held_looked, hheld]
  refine ⟨fun hnone => ?_, fun z hz => ⟨?_, hlooked.undrawn, hlooked.marks⟩⟩
  · rw [hsame] at hnone
    cases hnone
  · obtain rfl : z = y := by
      unfold Knowledge.Finds at hz
      rw [hsame] at hz
      exact hz
    rintro _ ⟨⟩
    refine ⟨fun hnone => hthere (List.map_eq_nil_iff.mp hnone), fun hfinal => ?_⟩
    obtain ⟨hkept, hreview⟩ := hdecided hfinal
    dsimp only
    rw [nextReviewStatus_of_decided hfinal hreview, map_written_self]
    exact hkept

variable {intake : Intake}

lemma heeds_afterUpsert {row : SalesOrder} {decision : Option StatusDecision}
    (h : Informed orderId marks σ) (hlocked : Locked orderId row σ) :
    (afterUpsert intake order row decision).Heeds (reviewRow orderId)
      (fun _ => Informed orderId marks) (fun _ => Informed orderId marks) σ := by
  unfold afterUpsert
  cases decision.filter fun decision => decision.kind = .apply with
  | none => exact heeds_applyReview h hlocked
  | some decision =>
    have hlog : (logDecision row order intake.source intake.operatorId decision).Spares
        (reviewRow orderId) Session.Drawn :=
      ForeignRow.spares_nextSnowflakeId.bind fun _ => .insert fun _ => rfl
    refine (heeds_spared hlog h).bind fun _ σ₁ h₁ => ?_
    refine (heeds_applyReview h₁.1 fun hid => ?_).bind fun _ σ₂ h₂ => ?_
    · rw [h₁.2]
      exact hlocked hid
    · exact heeds_mono (heeds_spared ((foreignRow_reviewRow orderId).spares_syncInventory _ _) h₂)
        (fun _ _ h => h.1) fun _ _ h => h

lemma heeds_afterWrite {r : Upserted} (h : LeftLocked orderId marks r σ) :
    (afterWrite intake order key r).Heeds (reviewRow orderId) (fun _ => Informed orderId marks)
      (fun _ => Informed orderId marks) σ := by
  obtain ⟨action, decision, held⟩ := r
  obtain ⟨hinformed, hlocked⟩ := h
  cases action with
  | skip => exact hinformed
  | _ =>
    rw [afterWrite, getByKey, bind_eq, heeds_bind, heeds_select]
    · intro d _
      have hlooked := hinformed.looked ((reviewRow orderId).seen d)
      cases d.orders.find? fun o => o.idempotencyKey = key with
      | none => exact hlooked
      | some _ => cases held with
        | none => exact hlooked
        | some row =>
          refine (heeds_afterUpsert hlooked fun hid => ?_).bind fun _ _ h => h
          rw [Knowledge.held_looked]
          exact hlocked row rfl hid
    · simp

lemma heeds_ingestOrder (h : Informed orderId marks σ) :
    (ingestOrder intake order).Heeds (reviewRow orderId) (fun _ => Informed orderId marks)
      (fun _ => Informed orderId marks) σ := by
  have hkey : (orderKey intake.shop order).Spares (reviewRow orderId) Session.Drawn :=
    ForeignRow.spares_orRaise _ _
  refine (heeds_spared hkey h).bind fun key σ₁ h₁ => ?_
  exact (heeds_upsert h₁.1).bind fun _ _ h₂ => heeds_afterWrite h₂

/-- An order of a page that fails is passed over as it stands. -/
lemma heeds_ingestPage {orders : List UnifiedOrder} (h : Informed orderId marks σ) :
    (ingestPage intake orders).Heeds (reviewRow orderId) (fun _ => Informed orderId marks)
      (fun _ => Informed orderId marks) σ := by
  refine heeds_forEach (fun order _ σ₁ h₁ => ?_) h
  have hkey : (orderKey intake.shop order).Spares (reviewRow orderId) Session.Drawn :=
    ForeignRow.spares_orRaise _ _
  refine (heeds_spared hkey h₁).bind fun _ σ₂ h₂ => ?_
  rw [heeds_attempt]
  have hone : (ingestOrder intake order).Heeds (reviewRow orderId) (fun _ => Informed orderId marks)
      (fun _ => Informed orderId marks) σ₂ := heeds_ingestOrder h₂.1
  refine heeds_mono (hone.bind (f := fun _ => ret ()) (Q := fun _ => Informed orderId marks)
    fun _ _ h => h) (fun _ _ h => h) fun e σ₃ h₃ => ?_
  unfold passOver
  split
  · exact h₃
  · exact h₃

/-- A review that an operator finds pending is not decided. -/
lemma heeds_decideReview {otherId : ℕ} {decision : ReviewDecision} (h : Informed orderId marks σ) :
    (decideReview otherId decision).Heeds (reviewRow orderId) (fun _ => Informed orderId marks)
      (fun _ => Informed orderId marks) σ := by
  rw [decideReview, deskOrder, getOrder, bind_eq, bind_eq, heeds_bind, heeds_bind, heeds_select]
  intro d hd
  have hlooked := h.looked ((reviewRow orderId).seen d)
  cases hfind : d.orders.find? fun o => o.id = otherId with
  | none => exact hlooked
  | some order =>
    have hmem := List.mem_of_find?_eq_some hfind
    simp only [orRaise, pure_eq, heeds_ret]
    split
    · exact hlooked
    · rename_i hpending
      rw [ne_eq, not_not] at hpending
      refine heeds_saveOrder (fun _ => hlooked) fun hid _ => ?_
      have hcurrent := mem_current hmem hid hd
      rw [hpending] at hcurrent
      refine ⟨fun hheld => ?_, fun y hy => ⟨?_, hlooked.undrawn, hlooked.marks⟩⟩
      · rw [Knowledge.current, hheld] at hcurrent
        exact List.ne_nil_of_mem hcurrent
      · have hrests := rests_of_finds hlooked.keeps hcurrent hy
        rintro _ ⟨⟩
        refine ⟨fun hnone => hrests.1 (List.map_eq_nil_iff.mp hnone), fun hdecided => ?_⟩
        exact absurd (hrests.2 hdecided).2 (not_pending_mem hdecided)

/-- Rules are rows of their own. -/
lemma spares_storeRule (code : String) (amountGt : ℚ) (enabled : Bool) :
    (storeRule code amountGt enabled).Spares (reviewRow orderId) Session.Drawn := by
  refine (Prog.Spares.select _).bind fun found => ?_
  cases found with
  | none =>
    refine (Prog.Spares.update (fun _ hlock => ?_) fun _ d => ?_).bind fun violated => ?_
    · cases List.mem_singleton.mp hlock
    · split <;> rfl
    · cases violated with
      | true => exact .fail _
      | false => exact .ret ()
  | some loaded =>
    refine .update (fun _ hlock => ?_) fun _ _ => rfl
    cases List.mem_singleton.mp hlock

lemma spares_saveRule {currency : String} {amountGt : ℚ} {enabled : Bool} {work : Work Unit}
    (hwork : saveRule currency amountGt enabled = work) :
    work.Spares (reviewRow orderId) Session.Drawn := by
  unfold saveRule at hwork
  -- the text in the condition is not to be evaluated
  generalize Text.upper (Text.strip currency) = code at hwork
  dsimp only at hwork
  subst hwork
  split_ifs
  · exact .fail _
  · exact .fail _
  · exact spares_storeRule code amountGt enabled

end statements

/-! ### Shipping -/

section shipping

variable {orderId : ℕ} {dispatch : Dispatch}

/-- The order has been rejected. -/
abbrev Rejected (orderId : ℕ) (d : Db) : Prop := (reviewRow orderId).seen d = [.rejected]

lemma maintains_spared {α : Type} {p : Work α}
    (hp : p.Spares (reviewRow orderId) Session.Drawn) :
    Maintains (Everywhere (Rejected orderId)) p :=
  hp.maintains Session.Drawn.refl Session.Drawn.trans _

lemma spares_shipmentRow (shipment : Shipment) :
    (saveShipment shipment).Spares (reviewRow orderId) Session.Drawn :=
  ForeignRow.spares_saveShipment (fun _ hlock => by cases hlock) (fun _ _ => rfl) shipment

/-- Shipping an order is no review of it. -/
lemma maintains_pushAndCommit {target : ShipTarget} {held : SalesOrder} {trackingNo : String}
    {attempt : ℕ} : Maintains (Everywhere (Rejected orderId))
      (pushAndCommit dispatch target held trackingNo attempt) := by
  unfold pushAndCommit
  cases dispatch.push target dispatch.carrier trackingNo with
  | error e => exact .fail e
  | ok _ =>
    refine (Maintains.select _).bind fun found => ?_
    cases found with
    | none => exact .fail _
    | some _ =>
      have hsave : Maintains (Everywhere (Rejected orderId)) (saveOrder held { held with
          unifiedStatus := .shipped, shippedAt := some dispatch.now }) := by
        refine Maintains.update fun s hs => ⟨?_, hs.2⟩
        have hseen := reviewsOf_saveOrder orderId s.data held { held with
          unifiedStatus := .shipped, shippedAt := some dispatch.now }
        rw [map_written_self, ite_self] at hseen
        exact hseen.trans hs.1
      refine hsave.bind fun _ => (maintains_spared ?_).bind fun _ => (maintains_spared ?_).bind
        fun _ => maintains_spared ?_
      · exact ForeignRow.spares_nextSnowflakeId.bind fun _ => .insert fun _ => rfl
      · exact spares_shipmentRow _
      · exact (foreignRow_reviewRow orderId).spares_shipOrder held.id

/-- Nor is undoing it and recording that it has failed. -/
lemma maintains_attempt {target : ShipTarget} {held : SalesOrder} {trackingNo : String}
    {attempt : ℕ} {line : ShipLine} {failed : ServiceError → ShipLine} :
    Maintains (Everywhere (Rejected orderId)) (.nested
      ((pushAndCommit dispatch target held trackingNo attempt).bind fun _ => .ret line)
      fun e => expire.bind fun _ =>
        (recordFailure dispatch target (publicReason e) attempt).bind
          fun _ => .ret (failed e)) := by
  refine Maintains.nested (maintains_pushAndCommit.bind fun _ => .ret line) fun e => ?_
  have hexpire : Maintains (Everywhere (Rejected orderId)) expire := .remember fun _ h => h
  refine hexpire.bind fun _ => Maintains.bind (.nested (maintains_spared ?_) fun _ => .ret ())
    fun _ => .ret (failed e)
  exact spares_shipmentRow _

/-- An order that has been rejected is not shipped, and stays so. -/
lemma wp_shipOne_rejected {otherId : ℕ} {s : WorkState} (h : Everywhere (Rejected orderId) s) :
    (shipOne dispatch otherId).wp (fun line s' => Everywhere (Rejected orderId) s' ∧
      (line.orderId = orderId → line.ok = false)) (fun _ _ => True) s := by
  unfold shipOne loadTarget
  simp only [bind_eq, wp_bind, getOrder, wp_select]
  cases hfind : s.data.orders.find? fun o => o.id = otherId with
  | none => exact ⟨h, fun _ => rfl⟩
  | some held =>
    have hmem := List.mem_of_find?_eq_some hfind
    have hid : held.id = otherId := by simpa using List.find?_some hfind
    simp only [wp_bind, getShipment, wp_select, pure_eq, wp_ret]
    cases hrefuse : (refuseShip held.unifiedStatus).or (reviewBlocksShip held.reviewStatus) with
    | some reason => exact ⟨h, fun _ => rfl⟩
    | none =>
      -- the order that is shipped is another one
      have hne : held.id ≠ orderId := by
        intro heq
        have hreview := mem_reviewsOf hmem heq
        rw [show reviewsOf orderId s.data = [.rejected] from h.1] at hreview
        have hblocks := (Option.or_eq_none_iff.mp hrefuse).2
        rw [List.mem_singleton.mp hreview] at hblocks
        cases hblocks
      let Q (line : ShipLine) (_ : WorkState) := line.orderId = held.id
      refine wp_mono (wp_and (Q := Q) (E := fun _ _ => True) ?_ (maintains_attempt s h))
        (fun line s' h' => ⟨h'.2, fun hline => ?_⟩) fun _ _ _ => trivial
      · rw [wp_nested, wp_bind]
        refine wp_mono (wp_trivial _ _) (fun _ _ _ => rfl) fun e s₁ _ => ?_
        rw [wp_bind]
        refine wp_mono (wp_trivial _ _) (fun _ s₂ _ => ?_) fun _ _ _ => trivial
        rw [wp_bind]
        exact wp_mono (wp_trivial _ _) (fun _ _ _ => rfl) fun _ _ _ => trivial
      · exact absurd (h'.1.symm.trans hline) hne

/-- However the batch goes, an order that has been rejected is not shipped with it. -/
lemma wp_batchShip_rejected {orderIds : List ℕ} {s : WorkState}
    (h : Everywhere (Rejected orderId) s) : (batchShip dispatch orderIds).wp
      (fun lines _ => ∀ line ∈ lines, line.orderId = orderId → line.ok = false)
      (fun _ _ => True) s := by
  have hall : ∀ (dispatch : Dispatch) (ids : List ℕ) (s : WorkState),
      Everywhere (Rejected orderId) s → (runShipBatch dispatch ids).wp
        (fun lines _ => ∀ line ∈ lines, line.orderId = orderId → line.ok = false)
        (fun _ _ => True) s := by
    intro dispatch ids
    induction ids with
    | nil => exact fun _ _ _ hline => absurd hline List.not_mem_nil
    | cons id rest ih =>
      intro s h
      rw [runShipBatch, bind_eq, wp_bind]
      refine wp_mono (wp_shipOne_rejected h) (fun line s₁ h₁ => ?_) fun _ _ _ => trivial
      rw [bind_eq, wp_bind]
      refine wp_mono (ih s₁ h₁.1) (fun lines _ hlines => ?_) fun _ _ _ => trivial
      exact List.forall_mem_cons.mpr ⟨h₁.2, hlines⟩
  have hsize : ∀ count, (checkBatchSize count).wp (fun _ s' => s' = s) (fun _ _ => True) s := by
    intro count
    unfold checkBatchSize
    split_ifs
    · trivial
    · trivial
    · rfl
  unfold batchShip
  rw [bind_eq, wp_bind]
  refine wp_mono (hsize _) (fun _ s' hs' => ?_) fun _ _ _ => trivial
  -- the text in the condition is not to be evaluated
  generalize Text.strip dispatch.carrier = carrier
  dsimp only
  split
  · trivial
  · exact hall _ _ s' (hs' ▸ h)

end shipping

/-! ### Requests -/

/-- What happens to the review of an order. -/
inductive ReviewTask
  | ingestPage (intake : Intake) (orders : List UnifiedOrder)
  | ingestOrder (intake : Intake) (order : UnifiedOrder)
  | saveRule (currency : String) (amountGt : ℚ) (enabled : Bool)
  | decideReview (orderId : ℕ) (decision : ReviewDecision)

def ReviewTask.work : ReviewTask → Work Unit
  | ingestPage intake orders => CrossPilot.ingestPage intake orders
  | ingestOrder intake order => do let _ ← CrossPilot.ingestOrder intake order
  | saveRule currency amountGt enabled => CrossPilot.saveRule currency amountGt enabled
  | decideReview orderId decision => CrossPilot.decideReview orderId decision

lemma heeds_task {orderId : ℕ} {σ : ReviewKnowledge} (h : Informed orderId [] σ) (t : ReviewTask) :
    t.work.Heeds (reviewRow orderId) (fun _ σ' => σ'.Keeps (reviewRow orderId)) (fun _ _ => True)
      σ := by
  have hkeep : t.work.Heeds (reviewRow orderId) (fun _ => Informed orderId [])
      (fun _ => Informed orderId []) σ := by
    cases t with
    | ingestPage intake orders => exact heeds_ingestPage h
    | ingestOrder intake order =>
      rw [ReviewTask.work]
      exact (heeds_ingestOrder h).bind fun _ _ h => h
    | saveRule currency amountGt enabled =>
      rw [ReviewTask.work]
      generalize hwork : CrossPilot.saveRule currency amountGt enabled = work
      exact heeds_mono (heeds_spared (spares_saveRule hwork) h) (fun _ _ h => h.1) fun _ _ h => h
    | decideReview orderId decision => exact heeds_decideReview h
  exact heeds_mono hkeep (fun _ _ h => h.keeps) fun _ _ _ => trivial

/-- The tasks at their start. -/
def reviewWorld {ι : Type} (t : ι → ReviewTask) (l : ι → Session) (d₀ : Db) :
    World ι Session Db RowKey ServiceError Unit where
  committed := d₀
  tx i := Tx.start (t i).work (l i)

/-- Under READ COMMITTED, if whoever locks the row of the order finds the review that it has read
last, or one that no operator has decided, then what an operator has decided stays from when it is
committed, and a rejected order is not shipped with any batch. A new order has an id of its own. -/
theorem decided_stays {ι : Type} [Fintype ι] [DecidableEq ι] (t : ι → ReviewTask) (l : ι → Session)
    (d₀ : Db) (orderId : ℕ) (hids : ∀ i n, (l i).ids n = orderId →
      reviewsOf orderId d₀ = [] ∧ ∀ j, j ≠ i → ∀ m, (l j).ids m ≠ orderId) (before after : List ι)
    (hfinds : (reviewWorld t l d₀).AllFindRead (reviewRow orderId)
      (fun _ => reviewsOf orderId d₀) (before ++ after))
    (hdecided : Decided (reviewsOf orderId ((reviewWorld t l d₀).run before).committed)) :
    reviewsOf orderId ((reviewWorld t l d₀).run (before ++ after)).committed =
        reviewsOf orderId ((reviewWorld t l d₀).run before).committed ∧
      (reviewsOf orderId ((reviewWorld t l d₀).run before).committed = [.rejected] →
        ∀ dispatch orderIds session, (batchShip dispatch orderIds).wp
          (fun lines _ => ∀ line ∈ lines, line.orderId = orderId → line.ok = false)
          (fun _ _ => True) ⟨session, ((reviewWorld t l d₀).run (before ++ after)).committed, []⟩) := by
  obtain ⟨maker, hmaker, hothers⟩ : ∃ maker : Option ι,
      (∀ i, maker = some i → reviewsOf orderId d₀ = []) ∧
      ∀ i, maker ≠ some i → ∀ n, (l i).ids n ≠ orderId := by
    by_cases hdraws : ∃ i n, (l i).ids n = orderId
    · obtain ⟨i, n, hid⟩ := hdraws
      exact ⟨some i, fun _ _ => (hids i n hid).1, fun j hj => (hids i n hid).2 j fun heq =>
        hj (congrArg some heq.symm)⟩
    · exact ⟨none, by simp, fun i _ n hid => hdraws ⟨i, n, hid⟩⟩
  have hstays : reviewsOf orderId ((reviewWorld t l d₀).run (before ++ after)).committed =
      reviewsOf orderId ((reviewWorld t l d₀).run before).committed := by
    refine World.final_stays (not_decided_absent orderId) (fun i hi => heeds_task ?_ (t i)) hmaker
      hfinds hdecided
    exact ⟨(fun _ h => by cases h), hothers i hi, rfl⟩
  refine ⟨hstays, fun hrejected dispatch orderIds session => ?_⟩
  exact wp_batchShip_rejected ⟨hstays.trans hrejected, fun _ hd => absurd hd List.not_mem_nil⟩

/-- A paid order whose review is pending, although no rule asks for it any more. -/
def pendingReview : Db where
  shops := [{ id := 4, platformCode := "tiktok" }]
  orders := [{ id := 6, shopId := 4, platformCode := "tiktok", platformOrderId := "A"
               idempotencyKey := "tiktok:4:A", platformStatus := "AWAITING_SHIPMENT"
               unifiedStatus := .paid, currency := "USD", platformUpdatedAt := some 1
               reviewStatus := .pending }]

/-- The platform has news of the order, and an operator rejects it. -/
def newsAndReject : Fin 2 → ReviewTask :=
  ![.ingestOrder { table := [], shop := { id := 4, platformCode := "tiktok" } }
      { platformOrderId := "A", platformStatus := "AWAITING_SHIPMENT", items := []
        updatedAt := 2 },
    .decideReview 6 .reject]

def reviewWorkers (i : Fin 2) : Session := newWorker (100 + 100 * i.val)

/-- The operator is done before the news is read. -/
theorem decided_stays_inTurn : reviewsOf 6 ((reviewWorld newsAndReject reviewWorkers
    pendingReview).run ([1, 1, 1, 1] ++ List.replicate 13 0)).committed = [.rejected] := by
  have hids : ∀ i n, (reviewWorkers i).ids n ≠ 6 := fun i n => by
    simp only [reviewWorkers, newWorker]
    omega
  have hrejected : reviewsOf 6 ((reviewWorld newsAndReject reviewWorkers pendingReview).run
      [1, 1, 1, 1]).committed = [.rejected] := by decide +kernel
  have hstays := decided_stays newsAndReject reviewWorkers pendingReview 6
    (fun i n hid => absurd hid (hids i n)) [1, 1, 1, 1] (List.replicate 13 0) (by decide +kernel)
    ⟨.rejected, by decide, hrejected⟩
  exact hstays.1.trans hrejected

/-- The news is read before the operator rejects the order, and stored after that. The order can be
shipped then. -/
theorem not_decided_stays_overtaken :
    reviewsOf 6 ((reviewWorld newsAndReject reviewWorkers pendingReview).run
      [0, 1, 1, 1, 1]).committed = [.rejected] ∧
    reviewsOf 6 ((reviewWorld newsAndReject reviewWorkers pendingReview).run
      ([0, 1, 1, 1, 1] ++ List.replicate 13 0)).committed = [.autoPassed] ∧
    (((batchShip ⟨fun _ _ _ => .ok (), "UPS", 1, 2⟩ [6]).exec ⟨newWorker 300,
      ((reviewWorld newsAndReject reviewWorkers pendingReview).run
        ([0, 1, 1, 1, 1] ++ List.replicate 13 0)).committed, []⟩).1.toOption.map
          (List.map ShipLine.ok)) = some [true] := by
  refine ⟨?_, ?_, ?_⟩
  · decide +kernel
  · decide +kernel
  · decide +kernel

end CrossPilot
