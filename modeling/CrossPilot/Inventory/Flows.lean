import CrossPilot.Inventory.Rules

/-!
# The ledger of stock

Every change of a balance writes a line of the ledger in the same transaction. A line names one
bucket of the balance (which bucket is not among its columns) and carries the quantity of the change
without its sign, the bucket before it and the bucket after it.

Read together with the changes they were written for, the lines of a balance account for all of its
buckets, from the first line on (`StockRun.flows`). Since no change moves the stock on hand without
naming it, the lines that name the stock on hand are enough to get it back. The other buckets also
move in changes that name the stock on hand.
-/

namespace CrossPilot

open Transaction Table

/-! ### Accounts -/

/-- A line of the ledger, with the change it was written for and the bucket it names. Either the
change was committed on its own, or it was a step of a draw. -/
structure Entry where
  line : InventoryFlow
  bucket : Bucket
  change : Delta
  draw : Option DrawMode := none

namespace Entry

/-- The line tells the change. -/
def Lawful (e : Entry) : Prop :=
  match e.draw with
  | none => Tells e.line.flowType e.line.quantity e.bucket e.change
  | some mode => e.line.flowType = mode.flowType ∧ e.bucket = mode.bucket ∧
      e.change = mode.delta e.line.quantity

/-- Only a line that names the stock on hand moves it. -/
lemma Lawful.available {e : Entry} (h : e.Lawful) (hb : e.bucket ≠ .available) :
    e.change.available = 0 := by
  unfold Lawful at h
  split at h
  · exact h.available hb
  · rename_i mode _
    obtain ⟨-, hbucket, hchange⟩ := h
    cases mode with
    | reserve =>
      rw [hchange]
      rfl
    | outbound => exact absurd hbucket hb

end Entry

/-- The lines account for the balance: each carries its bucket as it is when its turn comes, and as
the change leaves it. What a draw notes as the quantity before it is left open. -/
def Account : (Bucket → ℤ) → List Entry → (Bucket → ℤ) → Prop
  | start, [], stop => stop = start
  | start, e :: es, stop =>
    (e.draw = none → e.line.beforeQty = start e.bucket) ∧
      e.line.afterQty = start e.bucket + e.change.bucket e.bucket ∧
      Account (fun b => start b + e.change.bucket b) es stop

/-- One more line. -/
lemma Account.append_singleton {start stop : Bucket → ℤ} {es : List Entry} {e : Entry}
    (h : Account start es stop) (hbefore : e.draw = none → e.line.beforeQty = stop e.bucket)
    (hafter : e.line.afterQty = stop e.bucket + e.change.bucket e.bucket) :
    Account start (es ++ [e]) fun b => stop b + e.change.bucket b := by
  induction es generalizing start with
  | nil =>
    have hstop : stop = start := h
    subst hstop
    exact ⟨hbefore, hafter, rfl⟩
  | cons e' rest ih => exact ⟨h.1, h.2.1, ih h.2.2⟩

/-- An account is the sum of its changes. -/
lemma Account.eq_total {start stop : Bucket → ℤ} {es : List Entry} (h : Account start es stop)
    (b : Bucket) : stop b = start b + total (fun e => e.change.bucket b) es := by
  induction es generalizing start with
  | nil =>
    have hstop : stop = start := h
    rw [hstop, total_nil, add_zero]
  | cons e rest ih =>
    rw [ih h.2.2, total_cons]
    ring

/-- The lines that name the stock on hand add up to it, unless some of them are of draws. -/
theorem Account.available {start stop : Bucket → ℤ} {es : List Entry} (h : Account start es stop)
    (hlawful : ∀ e ∈ es, e.Lawful)
    (hdraw : ∀ e ∈ es, e.bucket = .available → e.draw = none) :
    stop .available = start .available +
      total (fun e => e.line.afterQty - e.line.beforeQty)
        (es.filter fun e => e.bucket = .available) := by
  induction es generalizing start with
  | nil =>
    have hstop : stop = start := h
    simp [hstop]
  | cons e rest ih =>
    obtain ⟨hbefore, hafter, hrest⟩ := h
    rw [ih hrest (fun e he => hlawful e (List.mem_cons_of_mem _ he))
      fun e he => hdraw e (List.mem_cons_of_mem _ he)]
    by_cases hb : e.bucket = .available
    · have hq := hbefore (hdraw e List.mem_cons_self hb)
      rw [hb] at hq hafter
      rw [List.filter_cons_of_pos (by simpa using hb), total_cons]
      omega
    · have hzero := (hlawful e List.mem_cons_self).available hb
      rw [List.filter_cons_of_neg (by simpa using hb)]
      simp only [Delta.bucket, hzero, add_zero]

/-! ### What happens to balances and ledger -/

/-- A balance without its safety stock. -/
def Inventory.withoutSafety (r : Inventory) : Inventory := { r with safeStock := 0 }

/-- A history of balances and ledger: other tables change, empty balances are added, and balances
change, each time with a line in the ledger. -/
inductive Posted (d₀ : Db) : List Entry → Db → Prop
  | start : Posted d₀ [] d₀
  | aside {es : List Entry} {d d' : Db} : Posted d₀ es d →
    d'.inventories.map Inventory.withoutSafety = d.inventories.map Inventory.withoutSafety →
    d'.flows = d.flows → Posted d₀ es d'
  | added {es : List Entry} {d d' : Db} (row : Inventory) : Posted d₀ es d →
    (∀ b, row.bucket b = 0) → (∀ r ∈ d.inventories, r.id ≠ row.id) →
    d'.inventories = d.inventories ++ [row] → d'.flows = d.flows → Posted d₀ es d'
  | posted {es : List Entry} {d d' : Db} (r : Inventory) (e : Entry) : Posted d₀ es d →
    Keyed Inventory.id d.inventories → r ∈ d.inventories → e.Lawful →
    e.line.inventoryId = r.id ∧ e.line.skuId = r.skuId ∧ e.line.warehouseId = r.warehouseId →
    (e.draw = none → e.line.beforeQty = r.bucket e.bucket) →
    e.line.afterQty = (r.shift e.change).bucket e.bucket →
    d'.inventories = alter Inventory.id r.id (·.shift e.change) d.inventories →
    d'.flows = d.flows ++ [e.line] → Posted d₀ (es ++ [e]) d'

/-- The lines of a balance. -/
def ofBalance (id : ℕ) (es : List Entry) : List Entry := es.filter fun e => e.line.inventoryId = id

@[simp] lemma ofBalance_append (id : ℕ) (es es' : List Entry) :
    ofBalance id (es ++ es') = ofBalance id es ++ ofBalance id es' := by
  simp [ofBalance]

namespace Posted

variable {d₀ d : Db} {es : List Entry}

/-- The entries are the lines of the ledger. -/
lemma flows_eq (h : Posted d₀ es d) : d.flows = d₀.flows ++ es.map Entry.line := by
  induction h with
  | start => simp
  | aside _ _ hf ih => rw [hf, ih]
  | added _ _ _ _ _ hf ih => rw [hf, ih]
  | posted _ _ _ _ _ _ _ _ _ _ hf ih =>
    rw [hf, ih, List.append_assoc, List.map_append]
    rfl

lemma lawful (h : Posted d₀ es d) : ∀ e ∈ es, e.Lawful := by
  induction h with
  | start => exact fun _ he => absurd he List.not_mem_nil
  | aside _ _ _ ih => exact ih
  | added _ _ _ _ _ _ ih => exact ih
  | posted r e _ _ _ hlawful _ _ _ _ _ ih =>
    intro e' he'
    rcases List.mem_append.mp he' with he' | he'
    · exact ih e' he'
    · rw [List.mem_singleton.mp he']
      exact hlawful

/-- Aside from safety stocks, the rows are the same. -/
lemma exists_of_map_eq {rows rows' : List Inventory}
    (h : rows'.map Inventory.withoutSafety = rows.map Inventory.withoutSafety) {r : Inventory}
    (hr : r ∈ rows') :
    ∃ r' ∈ rows, r'.id = r.id ∧ r'.pair = r.pair ∧ ∀ b, r'.bucket b = r.bucket b := by
  have hmem : r.withoutSafety ∈ rows.map Inventory.withoutSafety :=
    h ▸ List.mem_map_of_mem hr
  obtain ⟨r', hr', heq⟩ := List.mem_map.mp hmem
  have hid : r'.withoutSafety.id = r.withoutSafety.id := by rw [heq]
  have hpair : r'.withoutSafety.pair = r.withoutSafety.pair := by rw [heq]
  have hbucket : ∀ b, r'.withoutSafety.bucket b = r.withoutSafety.bucket b := by simp [heq]
  refine ⟨r', hr', hid, hpair, fun b => ?_⟩
  cases b with
  | available => exact hbucket .available
  | occupied => exact hbucket .occupied
  | defective => exact hbucket .defective
  | inTransit => exact hbucket .inTransit

/-- Lines are of balances that are there. -/
lemma exists_balance (h : Posted d₀ es d) : ∀ e ∈ es, ∃ r ∈ d.inventories,
    r.id = e.line.inventoryId ∧ r.pair = (e.line.skuId, e.line.warehouseId) := by
  induction h with
  | start => exact fun _ he => absurd he List.not_mem_nil
  | aside _ hrows _ ih =>
    intro e he
    obtain ⟨r, hr, hid, hpair⟩ := ih e he
    obtain ⟨r', hr', hid', hpair', -⟩ := exists_of_map_eq hrows.symm hr
    exact ⟨r', hr', hid'.trans hid, hpair'.trans hpair⟩
  | added row _ _ _ hrows _ ih =>
    intro e he
    obtain ⟨r, hr, hline⟩ := ih e he
    exact ⟨r, hrows ▸ List.mem_append_left _ hr, hline⟩
  | @posted _ d₁ d₂ r e _ _ hr _ hline _ _ hrows _ ih =>
    have hkeep : ∀ t ∈ d₁.inventories, ∃ t' ∈ d₂.inventories, t'.id = t.id ∧ t'.pair = t.pair := by
      intro t ht
      rw [hrows]
      refine ⟨_, mem_alter.mpr ⟨t, ht, rfl⟩, ?_⟩
      split
      · exact ⟨rfl, rfl⟩
      · exact ⟨rfl, rfl⟩
    intro e' he'
    rcases List.mem_append.mp he' with he' | he'
    · obtain ⟨t, ht, hid, hpair⟩ := ih e' he'
      obtain ⟨t', ht', hid', hpair'⟩ := hkeep t ht
      exact ⟨t', ht', hid'.trans hid, hpair'.trans hpair⟩
    · rw [List.mem_singleton.mp he', hline.1, hline.2.1, hline.2.2]
      exact hkeep r hr

/-- The lines of a balance account for all of its buckets. -/
theorem account (h : Posted d₀ es d) (hzero : ∀ r ∈ d₀.inventories, ∀ b, r.bucket b = 0) :
    ∀ r ∈ d.inventories, Account (fun _ => 0) (ofBalance r.id es) r.bucket := by
  induction h with
  | start => exact fun r hr => funext (hzero r hr)
  | aside _ hrows _ ih =>
    intro r hr
    obtain ⟨r', hr', hid, -, hbucket⟩ := exists_of_map_eq hrows hr
    rw [← hid, ← funext hbucket]
    exact ih r' hr'
  | added row hprev hempty hnew hrows _ ih =>
    intro r hr
    rw [hrows] at hr
    rcases List.mem_append.mp hr with hr | hr
    · exact ih r hr
    · rw [List.mem_singleton.mp hr]
      have hnone : ofBalance row.id _ = [] := List.filter_eq_nil_iff.mpr fun e he => by
        obtain ⟨t, ht, hid, -⟩ := hprev.exists_balance e he
        simpa [hid] using hnew t ht
      rw [hnone]
      exact funext hempty
  | posted r e hprev hkeyed hr _ hline hbefore hafter hrows _ ih =>
    intro r' hr'
    rw [hrows] at hr'
    obtain ⟨t, ht, rfl⟩ := mem_alter.mp hr'
    by_cases hid : t.id = r.id
    · obtain rfl := hkeyed.eq_of_key_eq ht hr hid
      rw [if_pos rfl]
      have hmine : ofBalance t.id [e] = [e] := by simp [ofBalance, hline.1]
      rw [Inventory.shift_id, ofBalance_append, hmine]
      have hstop : (t.shift e.change).bucket = fun b => t.bucket b + e.change.bucket b :=
        funext fun b => Inventory.bucket_shift _ _ _
      rw [hstop]
      exact (ih t ht).append_singleton hbefore (hafter.trans (Inventory.bucket_shift _ _ _))
    · rw [if_neg hid]
      have hother : ofBalance t.id [e] = [] := by
        simp [ofBalance, hline.1, Ne.symm hid]
      rw [ofBalance_append, hother, List.append_nil]
      exact ih t ht

end Posted

/-! ### The calls keep the ledger -/

/-- Where a transaction stands: the balances it has seen are rows as they were at some time, the ids
it will draw are new, and the ledger has its history since `d₀`. -/
structure Journal (d₀ : Db) (K : List Inventory) (s : WorkState) : Prop where
  ready : Ready s
  injective : Function.Injective s.session.ids
  unused : ∀ n, ∀ r ∈ s.data.inventories, r.id ≠ s.session.ids n
  known : ∀ row ∈ K, ∃ r ∈ s.data.inventories, row.AsOf r
  posted : ∃ es, Posted d₀ es s.data

namespace Journal

variable {d₀ : Db} {K : List Inventory} {s s' : WorkState}

lemma of_continues (h : Journal d₀ K s) (hc : Continues s s' s.data) : Journal d₀ K s' := by
  obtain ⟨-, hinj, hunused, hknown, hposted⟩ := h
  refine ⟨hc.ready, hc.ids ▸ hinj, ?_, ?_, ?_⟩
  · rw [hc.ids, hc.data]
    exact hunused
  · rw [hc.data]
    exact hknown
  · rw [hc.data]
    exact hposted

lemma mono {K' : List Inventory} (h : Journal d₀ K' s) (hsub : K ⊆ K') : Journal d₀ K s :=
  { h with known := fun row hrow => h.known row (hsub hrow) }

lemma see {row r : Inventory} (h : Journal d₀ K s) (hr : r ∈ s.data.inventories)
    (hrow : row.AsOf r) : Journal d₀ (row :: K) s := by
  refine { h with known := fun t ht => ?_ }
  rcases List.mem_cons.mp ht with rfl | ht
  · exact ⟨r, hr, hrow⟩
  · exact h.known t ht

/-- Other tables are not in the journal. -/
lemma aside (h : Journal d₀ K s) {d : Db} (hinventories : d.inventories = s.data.inventories)
    (hflows : d.flows = s.data.flows) : Journal d₀ K { s with data := d } := by
  obtain ⟨⟨hshelf, hcoherent⟩, hinj, hunused, hknown, es, hposted⟩ := h
  refine ⟨⟨?_, ?_⟩, hinj, ?_, ?_, es, hposted.aside (by rw [hinventories]) hflows⟩
  · exact hinventories ▸ hshelf
  · exact hinventories ▸ hcoherent
  · exact hinventories ▸ hunused
  · exact hinventories ▸ hknown

/-- A balance changes, and the ledger has a line for it. -/
lemma log (h : Journal d₀ K s) {r : Inventory} (hr : r ∈ s.data.inventories) {e : Entry}
    (hlawful : e.Lawful)
    (hline : e.line.inventoryId = r.id ∧ e.line.skuId = r.skuId ∧ e.line.warehouseId = r.warehouseId)
    (hbefore : e.draw = none → e.line.beforeQty = r.bucket e.bucket)
    (hafter : e.line.afterQty = (r.shift e.change).bucket e.bucket) (hready : Ready s')
    (hids : s'.session.ids = s.session.ids) (hdata : s'.data = s.data.logged r e.change e.line) :
    Journal d₀ (r.shift e.change :: K) s' := by
  obtain ⟨⟨hshelf, -⟩, hinj, hunused, hknown, es, hposted⟩ := h
  have hmem : ∀ t ∈ s.data.inventories, ∃ t' ∈ s'.data.inventories, t'.id = t.id ∧
      ∀ held : Inventory, held.AsOf t → held.AsOf t' := by
    intro t ht
    rw [hdata]
    refine ⟨_, mem_alter.mpr ⟨t, ht, rfl⟩, ?_⟩
    split
    · exact ⟨rfl, fun held hheld => hheld.shift _⟩
    · exact ⟨rfl, fun held hheld => hheld⟩
  refine ⟨hready, hids ▸ hinj, fun n t' ht' => ?_, fun row hrow => ?_, es ++ [e], ?_⟩
  · rw [hdata] at ht'
    obtain ⟨t, ht, rfl⟩ := mem_alter.mp ht'
    rw [hids]
    split
    · exact hunused n t ht
    · exact hunused n t ht
  · rcases List.mem_cons.mp hrow with rfl | hrow
    · rw [hdata]
      exact ⟨_, mem_alter_self hr, .refl _⟩
    · obtain ⟨t, ht, hasOf⟩ := hknown row hrow
      obtain ⟨t', ht', -, hkeep⟩ := hmem t ht
      exact ⟨t', ht', hkeep row hasOf⟩
  · rw [hdata]
    exact hposted.posted r e hshelf.ids hr hlawful hline hbefore hafter rfl rfl

/-- A new balance is empty. -/
lemma add (h : Journal d₀ K s) {skuId warehouseId : ℕ} (hnone : ¬ Stocks s.data skuId warehouseId)
    (row : Inventory) (hrow : row = { id := s.session.ids 0, skuId, warehouseId })
    (hsession : s'.session = { s.session.put row with ids := fun n => s.session.ids (n + 1) })
    (hdata : s'.data = { s.data with inventories := s.data.inventories ++ [row] }) :
    Journal d₀ (row :: K) s' := by
  have hready : Ready s' := h.ready.add_balance (h.unused 0) hnone row hrow (by rw [hsession])
    (by rw [hdata])
  obtain ⟨-, hinj, hunused, hknown, es, hposted⟩ := h
  refine ⟨hready, ?_, fun n r hr => ?_, fun t ht => ?_, es, ?_⟩
  · rw [hsession]
    intro m n hmn
    exact Nat.succ_injective (hinj hmn)
  · rw [hdata] at hr
    rw [hsession]
    rcases List.mem_append.mp hr with hr | hr
    · exact hunused (n + 1) r hr
    · rw [List.mem_singleton.mp hr, hrow]
      exact fun heq => absurd (hinj heq) (by simp)
  · rw [hdata]
    rcases List.mem_cons.mp ht with rfl | ht
    · exact ⟨t, List.mem_append_right _ (List.mem_singleton_self t), .refl t⟩
    · obtain ⟨r, hr, hasOf⟩ := hknown t ht
      exact ⟨r, List.mem_append_left _ hr, hasOf⟩
  · rw [hdata]
    refine hposted.added row (fun b => ?_) (fun r hr => ?_) rfl rfl
    · rw [hrow]
      cases b <;> rfl
    · rw [hrow]
      exact hunused 0 r hr

end Journal

/-- The statements of the stock service keep the journal. -/
theorem stockRules_journal (d₀ : Db) :
    StockRules fun K _ p => Prog.Maintains (Journal d₀ K) p where
  ret := .ret
  fail := .fail
  bind := .bind
  select := .select
  rows := by
    intro K α β f seen k hseen hk s hs
    rw [Prog.wp_bind, Prog.wp_select]
    have hmore : Journal d₀ (seen (f s.data) ++ K) s := by
      refine { hs with known := fun row hrow => ?_ }
      rcases List.mem_append.mp hrow with hrow | hrow
      · exact ⟨row, hseen _ row hrow, .refl row⟩
      · exact hs.known row hrow
    exact Prog.wp_mono (hk _ s hmore) (fun _ _ h => h.mono (List.subset_append_right _ _))
      fun _ _ h => h.mono (List.subset_append_right _ _)
  present := by
    intro K α row k hrow hk s hs
    obtain ⟨r, hr, hasOf⟩ := hs.known row hrow
    rw [Prog.wp_bind]
    refine wp_present_of_asOf hs.ready hr hasOf fun held s' hheld hc => ?_
    have hs' := (hs.of_continues hc).see (hc.data ▸ hr) hheld
    exact Prog.wp_mono (hk held s' hs') (fun _ _ h => h.mono (List.subset_cons_self _ _))
      fun _ _ h => h.mono (List.subset_cons_self _ _)
  nextSnowflakeId := fun s hs =>
    { hs with
      ready := ⟨hs.ready.shelf, hs.ready.coherent⟩
      injective := fun m n hmn => Nat.succ_injective (hs.injective hmn)
      unused := fun n => hs.unused (n + 1) }
  aside := by
    intro K α t eff r h
    exact .update fun s hs => hs.aside (h _ _).1 (h _ _).2
  ensure := by
    intro K α skuId warehouseId k hk s hs
    rw [Prog.wp_bind]
    have hgo : ∀ row s', Journal d₀ (row :: K) s' →
        (k row).wp (fun _ => Journal d₀ K) (fun _ => Journal d₀ K) s' := fun row s' hs' =>
      Prog.wp_mono (hk row s' hs') (fun _ _ h => h.mono (List.subset_cons_self _ _))
        fun _ _ h => h.mono (List.subset_cons_self _ _)
    refine wp_ensure_of_ready hs.ready (fun r hr _ held s' hheld hc => ?_)
      (fun hnone row s' hrow hsession hdata => ?_) fun _ => hs
    · exact hgo held s' ((hs.of_continues hc).see (hc.data ▸ hr) hheld)
    · exact hgo row s' (hs.add hnone row hrow hsession hdata)
  change := by
    intro K α row note δ k hrow hnote hk s hs
    obtain ⟨r, hr, hasOf⟩ := hs.known row hrow
    rw [Prog.wp_bind]
    refine wp_commitChange hs.ready hr hasOf (fun _ s' hc => ?_) fun _ s' hc => hs.of_continues hc
    let e : Entry := ⟨note.line (r.shift δ) (r.bucket note.bucket) ((r.shift δ).bucket note.bucket),
      note.bucket, δ, none⟩
    have hs' : Journal d₀ (r.shift δ :: K) s' :=
      hs.log (e := e) hr hnote ⟨rfl, rfl, rfl⟩ (fun _ => rfl) rfl hc.ready hc.ids hc.data
    exact Prog.wp_mono (hk _ s' hs') (fun _ _ h => h.mono (List.subset_cons_self _ _))
      fun _ _ h => h.mono (List.subset_cons_self _ _)
  take := by
    intro K α row mode quantity refType refId k hrow happlied hother s hs
    obtain ⟨r, hr, hasOf⟩ := hs.known row hrow
    rw [Prog.wp_bind]
    refine wp_applyOnce hs.ready hr hasOf.id (fun _ _ s' hc => ?_) (fun _ s' hc => ?_)
      fun _ _ s' hc => ?_
    · obtain ⟨k', hk', hgo⟩ := happlied (r.shift (mode.delta quantity))
      rw [hk', Prog.wp_bind, appendFlow, Prog.wp_insert]
      let note : FlowNote := ⟨mode.flowType, quantity, mode.bucket, refType, some refId⟩
      let fresh := r.shift (mode.delta quantity)
      let e : Entry := ⟨note.line fresh (fresh.bucket mode.bucket) (fresh.bucket mode.bucket),
        mode.bucket, mode.delta quantity, some mode⟩
      have hs' : Journal d₀ (fresh :: K) { s' with
          data := { s'.data with flows := s'.data.flows ++ [e.line] } } := by
        refine hs.log (e := e) hr ⟨rfl, rfl, rfl⟩ ⟨rfl, rfl, rfl⟩ (fun h => by cases h) rfl ?_
          hc.ids ?_
        · exact ⟨hc.ready.shelf, hc.ready.coherent⟩
        · rw [hc.data]
          rfl
      exact Prog.wp_mono (hgo () _ hs') (fun _ _ h => h.mono (List.subset_cons_self _ _))
        fun _ _ h => h.mono (List.subset_cons_self _ _)
    · exact hother _ _ (fun h => by cases h) s' (hs.of_continues hc)
    · exact hother _ _ (fun h => by cases h) s' (hs.of_continues hc)

lemma journal_setSafeStock (d₀ : Db) (inventoryId : ℕ) (safeStock : ℤ) :
    Prog.Maintains (Journal d₀ []) (setSafeStock inventoryId safeStock) := by
  refine (Prog.Maintains.select _).bind fun _ => (maintains_orRaise _ _).bind fun row => .update ?_
  intro s hs
  have hrows : ∀ {β : Type} (g : Inventory → β), (∀ r : Inventory, g { r with safeStock } = g r) →
      (alter Inventory.id row.id (fun r => { r with safeStock }) s.data.inventories).map g =
        s.data.inventories.map g := fun g hg => map_alter hg _
  obtain ⟨hready, hinj, hunused, -, es, hposted⟩ := hs
  refine ⟨hready.setSafeStock row.id safeStock, hinj, fun n r hr => ?_, by simp, es, ?_⟩
  · obtain ⟨t, ht, rfl⟩ := mem_alter.mp hr
    split
    · exact hunused n t ht
    · exact hunused n t ht
  · exact hposted.aside (hrows _ fun _ => rfl) rfl

/-! ### Runs -/

/-- A run of the stock service from `d₀`. Every call has a transaction of its own, by a worker who
may remember balances that are out of date. The rest of the system works on other tables. -/
inductive StockRun (d₀ : Db) : Db → Prop
  | start : StockRun d₀ d₀
  | call {d d' : Db} (call : StockCall) (l : Session) : StockRun d₀ d → Worker d l →
    Committed d (call.work.exec ⟨l, d, []⟩) d' → StockRun d₀ d'
  | elsewhere {d d' : Db} : StockRun d₀ d → d'.inventories = d.inventories → d'.flows = d.flows →
    StockRun d₀ d'

/-- A call keeps the journal, also when it fails half way. -/
lemma StockCall.keeps_journal {d₀ : Db} {s : WorkState} (call : StockCall) (hs : Journal d₀ [] s) :
    call.work.wp (fun _ => Journal d₀ []) (fun _ => Journal d₀ []) s := by
  by_cases h : ∃ inventoryId safeStock, call = .setSafeStock inventoryId safeStock
  · obtain ⟨inventoryId, safeStock, rfl⟩ := h
    exact journal_setSafeStock d₀ inventoryId safeStock s hs
  · exact (stockRules_journal d₀).work call (fun i t heq => h ⟨i, t, heq⟩) s hs

lemma StockRun.posted {d₀ d : Db} (h : StockRun d₀ d) (hshelf : Shelf d₀.inventories) :
    Shelf d.inventories ∧ ∃ es, Posted d₀ es d := by
  induction h with
  | start => exact ⟨hshelf, [], .start⟩
  | elsewhere _ hinventories hflows ih =>
    obtain ⟨hshelf', es, hposted⟩ := ih
    exact ⟨hinventories ▸ hshelf', es, hposted.aside (by rw [hinventories]) hflows⟩
  | @call d₁ d₂ call l _ hl hc ih =>
    obtain ⟨hshelf', es, hposted⟩ := ih
    have hs : Journal d₀ [] ⟨l, d₁, []⟩ :=
      ⟨⟨hshelf', hl.coherent⟩, hl.fresh.injective, fun n r hr heq =>
        hl.fresh.unused n (.balance hr heq.symm), by simp, es, hposted⟩
    have hkeep := call.keeps_journal hs
    unfold Prog.wp at hkeep
    cases hexec : call.work.exec ⟨l, d₁, []⟩ with
    | mk r s =>
      rw [hexec] at hkeep hc
      cases r with
      | ok _ =>
        rw [show d₂ = s.data from hc]
        exact ⟨hkeep.ready.shelf, hkeep.posted⟩
      | error e =>
        rcases hc with rfl | ⟨-, rfl⟩
        · exact ⟨hshelf', es, hposted⟩
        · exact ⟨hkeep.ready.shelf, hkeep.posted⟩

/-- In every run from empty balances and an empty ledger, the lines of the ledger tell the changes
they were written for and account for all buckets of every balance. If no draw has taken stock on
hand from a balance, the lines that name its stock on hand add up to it. -/
theorem StockRun.flows {d₀ d : Db} (h : StockRun d₀ d) (hshelf : Shelf d₀.inventories)
    (hzero : ∀ r ∈ d₀.inventories, ∀ b, r.bucket b = 0) (hempty : d₀.flows = []) :
    ∃ es : List Entry, d.flows = es.map Entry.line ∧ (∀ e ∈ es, e.Lawful) ∧
      (∀ e ∈ es, ∃ r ∈ d.inventories,
        r.id = e.line.inventoryId ∧ r.pair = (e.line.skuId, e.line.warehouseId)) ∧
      ∀ r ∈ d.inventories, Account (fun _ => 0) (ofBalance r.id es) r.bucket ∧
        ((∀ e ∈ ofBalance r.id es, e.bucket = .available → e.draw = none) →
          r.available = total (fun e => e.line.afterQty - e.line.beforeQty)
            ((ofBalance r.id es).filter fun e => e.bucket = .available)) := by
  obtain ⟨-, es, hposted⟩ := h.posted hshelf
  have hflows : d.flows = es.map Entry.line := by
    rw [hposted.flows_eq, hempty, List.nil_append]
  refine ⟨es, hflows, hposted.lawful, hposted.exists_balance, fun r hr => ?_⟩
  have haccount := hposted.account hzero r hr
  refine ⟨haccount, fun hdraw => ?_⟩
  have hlawful : ∀ e ∈ ofBalance r.id es, e.Lawful := fun e he =>
    hposted.lawful e (List.mem_filter.mp he).1
  have hsum := haccount.available hlawful hdraw
  rwa [zero_add] at hsum

/-- A warehouse and a SKU, and no stock. -/
def emptyShelf : Db where
  warehouses := [{ id := 1 }]
  skus := [{ id := 3 }]

lemma run_emptyShelf_call {d d' : Db} (h : StockRun emptyShelf d) (base : ℕ) (hb : Below base d)
    (call : StockCall) (hc : Committed d (call.work.exec ⟨newWorker base, d, []⟩) d') :
    StockRun emptyShelf d' := h.call call _ (worker_newWorker hb) hc

/-- Five pieces come in, and the ledger has them. -/
theorem flows_emptyShelf :
    ∃ d : Db, balanceAt d .available 3 1 = 5 ∧ ∃ es : List Entry, d.flows = es.map Entry.line ∧
      ∀ r ∈ d.inventories, Account (fun _ => 0) (ofBalance r.id es) r.bucket := by
  have hrun : StockRun emptyShelf _ := run_emptyShelf_call .start 100 (by decide)
    (.adjust { skuId := 3, warehouseId := 1, kind := .inbound, quantity := 5 }) rfl
  obtain ⟨es, hflows, -, -, haccount⟩ := hrun.flows ⟨by decide, by decide, by decide, by decide,
    by decide, by decide⟩ (by simp [emptyShelf]) rfl
  exact ⟨_, by decide, es, hflows, fun r hr => (haccount r hr).1⟩

/-- Five pieces come in, two of them turn out defective, and one more is found. The lines for the
last two are of one type and go opposite ways, and no choice of lines adds up to the defective
pieces. -/
theorem not_flows_of_type :
    ∃ d : Db, StockRun emptyShelf d ∧
      (¬ ∃ sign : FlowType → ℤ, ∀ f ∈ d.flows, f.afterQty - f.beforeQty = sign f.flowType * f.quantity) ∧
      ∃ r ∈ d.inventories, ∀ fs ∈ d.flows.sublists,
        total (fun f => f.afterQty - f.beforeQty) fs ≠ r.bucket .defective := by
  have h₁ : StockRun emptyShelf _ := run_emptyShelf_call .start 100 (by decide)
    (.adjust { skuId := 3, warehouseId := 1, kind := .inbound, quantity := 5 }) rfl
  have h₂ : StockRun emptyShelf _ := run_emptyShelf_call h₁ 200 (by decide)
    (.adjust { skuId := 3, warehouseId := 1, kind := .toDefective, quantity := 2 }) rfl
  have h₃ : StockRun emptyShelf _ := run_emptyShelf_call h₂ 300 (by decide)
    (.adjust { skuId := 3, warehouseId := 1, kind := .adjust, quantity := 1 }) rfl
  refine ⟨_, h₃, ?_, ?_⟩
  · rintro ⟨sign, hsign⟩
    have hdown := hsign ⟨100, 3, 1, .adjust, 2, "ADJUST", none, 5, 3⟩ (by decide)
    have hup := hsign ⟨100, 3, 1, .adjust, 1, "ADJUST", none, 3, 4⟩ (by decide)
    norm_num at hdown hup
    omega
  · decide

end CrossPilot
