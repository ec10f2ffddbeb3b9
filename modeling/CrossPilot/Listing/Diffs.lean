import Mathlib
import CrossPilot.Lib.DecimalText
import CrossPilot.Listing.Batch

/-!
# Differences between listings and platforms

A patrol asks the platforms for what they show of the linked listings. Where the price or the
currency of a listing differs from that, it opens a difference, or brings the open one up to date.
An operator accepts a difference, which changes the listing, or dismisses it. A value that was
dismissed is not brought up again.

The answers of the platforms are a parameter (`SnapshotPort`).
-/

namespace CrossPilot

open Transaction Table Decimals

/-- What a platform shows of a listing. -/
structure RemoteListing where
  price : Decimal
  currency : String

/-- How a question to a platform ends. The patrol passes over a refusal (an error of the platform
or of the application) and stops at any other error. -/
inductive SnapshotAnswer
  | answered (remote : RemoteListing)
  | refused
  | failed (e : ServiceError)

/-- The answers of the platforms, by shop, product and SKU. -/
abbrev SnapshotPort := Shop → String → String → SnapshotAnswer

/-- What a patrol reports. -/
structure ListingPatrolResult where
  created : ℕ
  scanned : ℕ
  deriving DecidableEq

def listingState (message : String) : ServiceError := .app 40003 message

namespace ListingDiffService

def patrolLimit : ℕ := 500

/-! ### Rows -/

/-- The differences of a field of a listing, open and closed. -/
def rowsOf (d : Db) (listingId : ℕ) (field : DiffField) : List ListingDiff :=
  d.diffs.filter fun x => x.listingId = listingId && x.fieldName = field

/-- `pending`. -/
def pendingDiff (d : Db) (listingId : ℕ) (field : DiffField) : Option ListingDiff :=
  (rowsOf d listingId field).find? fun x => x.status = .pending

/-- `latest_closed`. -/
def latestClosed (d : Db) (listingId : ℕ) (field : DiffField) : Option ListingDiff :=
  (((rowsOf d listingId field).filter fun x => x.status ≠ .pending).insertionSort
    fun a b => b.id ≤ a.id).head?

def listLinked (d : Db) : List Listing :=
  ((d.listings.filter fun l => !l.deleted && l.status = .linked).insertionSort
    fun a b => a.id ≤ b.id).take patrolLimit

/-! ### Values -/

/-- `_money`: a price as it is read from its column. -/
def money (value : Option ℚ) : Option String := value.map (Decimals.text 6)

def localValue (listing : Listing) : DiffField → Option String
  | .price => money listing.price
  | .currency => listing.currency

def remoteValue (remote : RemoteListing) : DiffField → String
  | .price => remote.price.format
  | .currency => Text.upper remote.currency

/-- `Decimal(text)`. -/
def decimal (text : String) : Except ServiceError Decimal :=
  match Decimal.ofText text with
  | none => .error (.value "ConversionSyntax")
  | some d => .ok d

/-- `_differs`. -/
def differs (field : DiffField) (own : Option String) (remote : String) :
    Except ServiceError Bool :=
  match field with
  | .price =>
    match own with
    | none => .ok true
    | some text => do
      let here ← decimal text
      let there ← decimal remote
      return here.value ≠ there.value
  | .currency => .ok (Text.upper (own.getD "") ≠ Text.upper remote)

/-! ### The patrol -/

/-- The last answer to a difference was that this value is not wanted. -/
def declined (closed : Option ListingDiff) (remote : String) : Bool :=
  closed.any fun x => x.status = .dismissed && x.remoteValue = remote

/-- `_open`. -/
def openDiff (listing : Listing) (field : DiffField) (own : Option String) (remote : String) :
    Work ℕ := do
  match ← .select fun d => pendingDiff d listing.id field with
  | some pending =>
    let change (x : ListingDiff) := { x with localValue := own, remoteValue := remote }
    .update (fun _ => [.diff pending.id])
      (fun _ d => { d with diffs := alter ListingDiff.id pending.id change d.diffs })
      fun _ _ => ()
    return 0
  | none =>
    let closed ← .select fun d => latestClosed d listing.id field
    if declined closed remote then return 0
    else
      let id ← nextSnowflakeId
      let row : ListingDiff := {
        id, listingId := listing.id, shopId := listing.shopId, fieldName := field
        localValue := own, remoteValue := remote }
      .insert fun d => { d with diffs := d.diffs ++ [row] }
      return 1

@[irreducible]
def compareField (listing : Listing) (remote : RemoteListing) (field : DiffField) : Work ℕ :=
  match differs field (localValue listing field) (remoteValue remote field) with
  | .error e => raise e
  | .ok true => openDiff listing field (localValue listing field) (remoteValue remote field)
  | .ok false => return 0

/-- What the platform is asked for a listing. -/
def askFor (snapshots : SnapshotPort) (d : Db) (listing : Listing) : SnapshotAnswer :=
  match listing.platformProductId.filter (· ≠ ""), listing.platformSkuId.filter (· ≠ "") with
  | some productId, some skuId =>
    match d.shops.find? fun s => s.id = listing.shopId with
    | none => .refused
    | some shop => snapshots shop productId skuId
  | _, _ => .refused

/-- `_compare`. -/
def compare (snapshots : SnapshotPort) (listing : Listing) : Work ℕ := do
  match ← .select fun d => askFor snapshots d listing with
  | .refused => return 0
  | .failed e => raise e
  | .answered remote =>
    let price ← compareField listing remote .price
    let currency ← compareField listing remote .currency
    return price + currency

def compareAll (snapshots : SnapshotPort) : List Listing → Work ℕ
  | [] => return 0
  | listing :: rest => do
    let created ← compare snapshots listing
    return created + (← compareAll snapshots rest)

def patrol (snapshots : SnapshotPort) : Work ListingPatrolResult := do
  let listings ← .select listLinked
  let created ← compareAll snapshots listings
  return ⟨created, listings.length⟩

/-! ### Answers -/

/-- `_pending`. -/
def openRow (diffId : ℕ) : Work (ListingDiff × Listing) := do
  let diff ← orRaise .notFound (← .select fun d => d.diffs.find? fun x => x.id = diffId)
  if diff.status ≠ .pending then raise (listingState "这条差异已经处理过")
  else
    let listing ← orRaise .notFound (← .select fun d =>
      d.listings.find? fun l => l.id = diff.listingId ∧ l.deleted = false)
    return (diff, listing)

def closeDiff (diff : ListingDiff) (status : DiffStatus) : Work ListingDiff := do
  .update (fun _ => [.diff diff.id])
    (fun _ d => { d with
      diffs := alter ListingDiff.id diff.id (fun x => { x with status }) d.diffs })
    fun _ _ => ()
  return { diff with status }

/-- `_accept_price`. The column has no room for an infinity. -/
def acceptPrice (remote : String) (currency : Option String) : Except ServiceError ℚ :=
  match (Decimal.ofText remote).map Decimal.value with
  | none => .error (listingState "平台售价无法采纳")
  | some (.inl price) =>
    if price < 0 ∨ currency = none then .error (listingState "平台售价无法采纳")
    else .ok (quantize 6 price)
  | some (.inr negative) =>
    if negative ∨ currency = none then .error (listingState "平台售价无法采纳")
    else .error (.value "numeric field overflow")

/-- `_accept_currency`. -/
def acceptCurrency (remote : String) (price : Option ℚ) : Except ServiceError String :=
  let currency := Text.upper remote
  if currency.length ≠ 3 ∨ price = none then .error (listingState "平台币种无法采纳") else .ok currency

/-- The listing with the value of the platform. -/
def accepted (diff : ListingDiff) (listing : Listing) : Except ServiceError Listing :=
  match diff.fieldName with
  | .price => (acceptPrice diff.remoteValue listing.currency).map fun price =>
      { listing with price := some price }
  | .currency => (acceptCurrency diff.remoteValue listing.price).map fun currency =>
      { listing with currency := some currency }

def accept (diffId : ℕ) : Work ListingDiff := do
  let (diff, listing) ← openRow diffId
  match accepted diff listing with
  | .error e => raise e
  | .ok row =>
    .update (fun _ => [.listing listing.id])
      (fun _ d => { d with listings := alter Listing.id listing.id (fun _ => row) d.listings })
      fun _ _ => ()
    closeDiff diff .accepted

def dismiss (diffId : ℕ) : Work ListingDiff := do
  let (diff, _) ← openRow diffId
  closeDiff diff .dismissed

/-! ### What differs -/

/-- The platform shows another value than the listing. -/
def Differs (listing : Listing) (remote : RemoteListing) : DiffField → Prop
  | .price => ∀ price ∈ listing.price, remote.price.value ≠ .inl price
  | .currency => Text.upper (listing.currency.getD "") ≠ Text.upper remote.currency

instance (listing : Listing) (remote : RemoteListing) (field : DiffField) :
    Decidable (Differs listing remote field) := by
  cases field <;> simp only [Differs] <;> infer_instance

lemma upper_upper (text : String) : Text.upper (Text.upper text) = Text.upper text := by
  simp [Text.upper, Function.comp_def, Char.toUpper_toUpper_eq_toUpper]

lemma decimal_of_some {text : String} {d : Decimal} (h : Decimal.ofText text = some d) :
    decimal text = .ok d := by
  simp [decimal, h]

/-- The texts differ as the values do. -/
lemma differs_eq {listing : Listing} (hfixed : ∀ price ∈ listing.price, Fixed 6 price)
    (remote : RemoteListing) (field : DiffField) :
    differs field (localValue listing field) (remoteValue remote field) =
      .ok (decide (Differs listing remote field)) := by
  cases field with
  | currency =>
    simp only [differs, localValue, remoteValue, Differs, upper_upper, ne_eq]
  | price =>
    cases hprice : listing.price with
    | none => simp [differs, localValue, money, hprice, Differs]
    | some price =>
      obtain ⟨here, hhere, hvalue⟩ := Decimal.ofText_text (by decide : 0 < 6) price
      obtain ⟨there, hthere, hsame⟩ := Decimal.value_ofText_format remote.price
      rw [quantize_eq_self (hfixed price hprice)] at hvalue
      simp only [differs, localValue, remoteValue, money, hprice, Option.map_some,
        decimal_of_some hhere, decimal_of_some hthere, hvalue, hsame, Differs, Option.mem_some_iff,
        forall_eq', ne_eq, bind, Except.bind, pure, Except.pure]
      simp only [eq_comm]

/-! ### One difference -/

/-- The open differences of a field of a listing. -/
def pendingRows (d : Db) (listingId : ℕ) (field : DiffField) : List ListingDiff :=
  (rowsOf d listingId field).filter fun x => x.status = .pending

/-- No difference is open, and the operator's last answer was that this value is not wanted. -/
def TurnedDown (d : Db) (listingId : ℕ) (field : DiffField) (remote : String) : Prop :=
  pendingRows d listingId field = [] ∧ declined (latestClosed d listingId field) remote = true

/-- The one open difference shows both values. -/
def Shows (d : Db) (listingId : ℕ) (field : DiffField) (own : Option String) (remote : String) :
    Prop :=
  ∃ row, pendingRows d listingId field = [row] ∧ row.localValue = own ∧ row.remoteValue = remote

/-- What the database keeps of the differences: unique ids, and the unique index on the open ones. -/
structure DiffsWf (d : Db) : Prop where
  diffs_keyed : Keyed ListingDiff.id d.diffs
  pending_unique : ∀ listingId field, (pendingRows d listingId field).length ≤ 1

/-- The worker draws ids that no difference has. -/
structure NewIds (s : WorkState) : Prop where
  ids_injective : Function.Injective s.session.ids
  ids_unused : ∀ n, ∀ x ∈ s.data.diffs, x.id ≠ s.session.ids n

/-- The differences of all fields but some are as before, and all other tables. -/
structure Kept (others : ℕ → DiffField → Prop) (s s' : WorkState) : Prop where
  frame : s'.data = { s.data with diffs := s'.data.diffs }
  rows : ∀ listingId field, others listingId field →
    rowsOf s'.data listingId field = rowsOf s.data listingId field

/-- From a state with differences in order to another one. -/
structure Proceeds (others : ℕ → DiffField → Prop) (s s' : WorkState) : Prop
    extends Kept others s s' where
  wf : DiffsWf s'.data
  new_ids : NewIds s'

section Steps

variable {others : ℕ → DiffField → Prop} {s s' s'' : WorkState} {E : ServiceError → WorkState → Prop}

lemma Proceeds.refl (hwf : DiffsWf s.data) (hnew : NewIds s) : Proceeds others s s :=
  ⟨⟨rfl, fun _ _ _ => rfl⟩, hwf, hnew⟩

lemma Proceeds.trans (h : Proceeds others s s') (h' : Proceeds others s' s'') :
    Proceeds others s s'' := by
  refine ⟨⟨?_, fun listingId field hother => ?_⟩, h'.wf, h'.new_ids⟩
  · rw [h'.frame, h.frame]
  · rw [h'.rows listingId field hother, h.rows listingId field hother]

lemma Proceeds.mono {others' : ℕ → DiffField → Prop} (h : Proceeds others s s')
    (hless : ∀ listingId field, others' listingId field → others listingId field) :
    Proceeds others' s s' :=
  ⟨⟨h.frame, fun listingId field hother => h.rows listingId field (hless _ _ hother)⟩, h.wf,
    h.new_ids⟩

lemma TurnedDown.congr {d d' : Db} {listingId : ℕ} {field : DiffField} {remote : String}
    (h : rowsOf d' listingId field = rowsOf d listingId field) :
    TurnedDown d' listingId field remote ↔ TurnedDown d listingId field remote := by
  simp only [TurnedDown, pendingRows, latestClosed, h]

lemma pendingRows_of_pendingDiff {d : Db} {listingId : ℕ} {field : DiffField}
    (hwf : DiffsWf d) {pending : ListingDiff} (h : pendingDiff d listingId field = some pending) :
    pendingRows d listingId field = [pending] := by
  have hmem : pending ∈ pendingRows d listingId field := by
    simp only [pendingRows, List.mem_filter]
    have hstatus := List.find?_some (p := fun x : ListingDiff => x.status = .pending) h
    exact ⟨List.mem_of_find?_eq_some h, hstatus⟩
  have hlength := hwf.pending_unique listingId field
  obtain ⟨row, hrow⟩ := List.length_eq_one_iff.mp
    (le_antisymm hlength (List.length_pos_of_mem hmem))
  rw [hrow] at hmem ⊢
  rw [List.mem_singleton.mp hmem]

lemma pendingRows_eq_nil_of_none {d : Db} {listingId : ℕ} {field : DiffField}
    (h : pendingDiff d listingId field = none) : pendingRows d listingId field = [] := by
  simp only [pendingRows, List.filter_eq_nil_iff]
  exact List.find?_eq_none.mp h

/-- The differences of a field, after one of them has been written. -/
lemma rowsOf_alter {d : Db} {i : ℕ} {change : ListingDiff → ListingDiff}
    (hkeep : ∀ x, (change x).listingId = x.listingId ∧ (change x).fieldName = x.fieldName)
    (listingId : ℕ) (field : DiffField) :
    rowsOf { d with diffs := alter ListingDiff.id i change d.diffs } listingId field =
      (rowsOf d listingId field).map fun x => if x.id = i then change x else x := by
  simp only [rowsOf, alter, List.filter_map]
  congr 1
  apply List.filter_congr
  intro x _
  simp only [Function.comp_apply]
  split_ifs
  · rw [(hkeep x).1, (hkeep x).2]
  · rfl

/-- The differences of one field after one of them has been written or added. -/
lemma rowsOf_append (d : Db) (row : ListingDiff) (listingId : ℕ) (field : DiffField) :
    rowsOf { d with diffs := d.diffs ++ [row] } listingId field = rowsOf d listingId field ++
      if row.listingId = listingId ∧ row.fieldName = field then [row] else [] := by
  by_cases h : row.listingId = listingId ∧ row.fieldName = field <;> simp [rowsOf, h]

/-- Every field but one. -/
def Other (listingId : ℕ) (field : DiffField) (id : ℕ) (f : DiffField) : Prop :=
  ¬ (id = listingId ∧ f = field)

/-- A difference after it has been brought up to date. -/
def renewed (own : Option String) (remote : String) (x : ListingDiff) : ListingDiff :=
  { x with localValue := own, remoteValue := remote }

/-- The one open difference of a field is brought up to date. -/
lemma proceeds_renewed (hwf : DiffsWf s.data) (hnew : NewIds s) {listingId : ℕ} {field : DiffField}
    {pending : ListingDiff} (hrows : pendingRows s.data listingId field = [pending])
    (own : Option String) (remote : String) {d' : Db} (hd' : d' = { s.data with
      diffs := alter ListingDiff.id pending.id (renewed own remote) s.data.diffs }) :
    Proceeds (Other listingId field) s { s with data := d' } ∧
      pendingRows d' listingId field = [renewed own remote pending] := by
  have hmem : pending ∈ pendingRows s.data listingId field := by simp [hrows]
  simp only [pendingRows, rowsOf, List.mem_filter, Bool.and_eq_true, decide_eq_true_eq] at hmem
  obtain ⟨⟨hin, hlisting, hfield⟩, -⟩ := hmem
  have halter (id : ℕ) (f : DiffField) : rowsOf d' id f = (rowsOf s.data id f).map fun x =>
      if x.id = pending.id then renewed own remote x else x := by
    have hkeep : ∀ x, (renewed own remote x).listingId = x.listingId ∧
        (renewed own remote x).fieldName = x.fieldName := fun x => ⟨rfl, rfl⟩
    rw [hd', rowsOf_alter hkeep]
  have hothers (id : ℕ) (f : DiffField) (hother : Other listingId field id f) :
      rowsOf d' id f = rowsOf s.data id f := by
    rw [halter]
    conv_rhs => rw [← List.map_id (rowsOf s.data id f)]
    apply List.map_congr_left
    intro x hx
    simp only [rowsOf, List.mem_filter, Bool.and_eq_true, decide_eq_true_eq] at hx
    have hne : x.id ≠ pending.id := by
      intro hid
      obtain rfl := hwf.diffs_keyed.eq_of_key_eq hx.1 hin hid
      exact hother ⟨hx.2.1.symm.trans hlisting, hx.2.2.symm.trans hfield⟩
    simp [hne]
  have hchanged : pendingRows d' listingId field = [renewed own remote pending] := by
    have hstatus : ((fun x : ListingDiff => decide (x.status = .pending)) ∘ fun x =>
        if x.id = pending.id then renewed own remote x else x) =
          fun x => decide (x.status = .pending) := by
      funext x
      simp only [Function.comp_apply]
      split_ifs <;> rfl
    rw [pendingRows, halter, List.filter_map, hstatus, ← pendingRows, hrows]
    simp
  refine ⟨⟨⟨?_, hothers⟩, ⟨?_, ?_⟩, ⟨hnew.ids_injective, ?_⟩⟩, hchanged⟩
  · simp only [hd']
  · rw [hd']
    exact hwf.diffs_keyed.alter fun _ => rfl
  · intro id f
    by_cases hsame : id = listingId ∧ f = field
    · rw [hsame.1, hsame.2]
      simp [hchanged]
    · rw [pendingRows, hothers id f hsame]
      exact hwf.pending_unique id f
  · intro n x hx
    simp only [hd'] at hx
    obtain ⟨y, hy, rfl⟩ := mem_alter.mp hx
    have hid : (if y.id = pending.id then renewed own remote y else y).id = y.id := by
      split_ifs <;> rfl
    rw [hid]
    exact hnew.ids_unused n y hy

/-- A difference is added for a field that has none open. -/
lemma proceeds_added (hwf : DiffsWf s.data) (hnew : NewIds s) {row : ListingDiff}
    (hid : row.id = s.session.ids 0) (hstatus : row.status = .pending)
    (hnil : pendingRows s.data row.listingId row.fieldName = []) {d' : Db}
    (hd' : d' = { s.data with diffs := s.data.diffs ++ [row] }) :
    Proceeds (Other row.listingId row.fieldName) s
        { s with session := { s.session with ids := fun n => s.session.ids (n + 1) }, data := d' } ∧
      pendingRows d' row.listingId row.fieldName = [row] := by
  have happend (id : ℕ) (f : DiffField) : rowsOf d' id f = rowsOf s.data id f ++
      if row.listingId = id ∧ row.fieldName = f then [row] else [] := by
    rw [hd']
    exact rowsOf_append s.data row id f
  have hothers (id : ℕ) (f : DiffField) (hother : Other row.listingId row.fieldName id f) :
      rowsOf d' id f = rowsOf s.data id f := by
    rw [happend, if_neg fun h => hother ⟨h.1.symm, h.2.symm⟩, List.append_nil]
  have hadded : pendingRows d' row.listingId row.fieldName = [row] := by
    rw [pendingRows, happend, List.filter_append, ← pendingRows, hnil]
    simp [hstatus]
  refine ⟨⟨⟨?_, hothers⟩, ⟨?_, ?_⟩, ⟨?_, ?_⟩⟩, hadded⟩
  · simp only [hd']
  · rw [hd']
    apply hwf.diffs_keyed.append_singleton
    intro x hx
    rw [hid]
    exact hnew.ids_unused 0 x hx
  · intro id f
    by_cases hsame : id = row.listingId ∧ f = row.fieldName
    · rw [hsame.1, hsame.2]
      simp [hadded]
    · rw [pendingRows, hothers id f hsame]
      exact hwf.pending_unique id f
  · intro m n hmn
    simpa using hnew.ids_injective hmn
  · intro n x hx
    simp only [hd', List.mem_append, List.mem_singleton] at hx
    obtain hx | rfl := hx
    · exact hnew.ids_unused (n + 1) x hx
    · rw [hid]
      intro hsame
      exact absurd (hnew.ids_injective hsame) (by simp)

/-- The field shows both values afterwards, unless this value was turned down. -/
def Settles (listingId : ℕ) (field : DiffField) (own : Option String) (remote : String)
    (d d' : Db) : Prop :=
  (TurnedDown d listingId field remote → pendingRows d' listingId field = []) ∧
    (¬ TurnedDown d listingId field remote → Shows d' listingId field own remote)

/-- Opening a difference touches no other field. -/
lemma wp_openDiff (hwf : DiffsWf s.data) (hnew : NewIds s) (listing : Listing) (field : DiffField)
    (own : Option String) (remote : String) :
    (openDiff listing field own remote).wp (fun _ s' =>
      Proceeds (Other listing.id field) s s' ∧
        Settles listing.id field own remote s.data s'.data) E s := by
  simp only [openDiff, Prog.bind_eq, Prog.wp_bind, Prog.wp_select]
  cases hpending : pendingDiff s.data listing.id field with
  | some pending =>
    have hrows := pendingRows_of_pendingDiff hwf hpending
    obtain ⟨hproceeds, hchanged⟩ := proceeds_renewed hwf hnew hrows own remote rfl
    simp only [Prog.wp_bind, Prog.wp_update, Prog.pure_eq, Prog.wp_ret]
    refine ⟨hproceeds, ?_, fun _ => ⟨_, hchanged, rfl, rfl⟩⟩
    rintro ⟨hnil, -⟩
    rw [hrows] at hnil
    cases hnil
  | none =>
    have hnil := pendingRows_eq_nil_of_none hpending
    simp only [Prog.wp_bind, Prog.wp_select]
    cases hdeclined : declined (latestClosed s.data listing.id field) remote with
    | true =>
      simp only [if_true, Prog.pure_eq, Prog.wp_ret]
      exact ⟨.refl hwf hnew, fun _ => hnil, fun h => absurd ⟨hnil, hdeclined⟩ h⟩
    | false =>
      simp only [Bool.false_eq_true, if_false, Prog.wp_bind, wp_nextSnowflakeId, Prog.wp_insert,
        Prog.pure_eq, Prog.wp_ret]
      let row : ListingDiff := {
        id := s.session.ids 0, listingId := listing.id, shopId := listing.shopId
        fieldName := field, localValue := own, remoteValue := remote }
      have hadd : pendingRows s.data row.listingId row.fieldName = [] := hnil
      obtain ⟨hproceeds, hadded⟩ := proceeds_added hwf hnew rfl rfl hadd rfl
      refine ⟨hproceeds, ?_, fun _ => ⟨_, hadded, rfl, rfl⟩⟩
      rintro ⟨-, h⟩
      rw [hdeclined] at h
      cases h

end Steps

/-! ### The whole patrol -/

/-- The platform has answered for a listing that the patrol has asked about. -/
def Answered (snapshots : SnapshotPort) (d : Db) (listing : Listing) (remote : RemoteListing) :
    Prop :=
  askFor snapshots d listing = .answered remote

/-- What a patrol leaves of the fields of a listing that differ. -/
def Patrolled (listing : Listing) (remote : RemoteListing) (d d' : Db) : Prop :=
  ∀ field, Differs listing remote field →
    Settles listing.id field (localValue listing field) (remoteValue remote field) d d'

section Runs

variable {s : WorkState} {listing : Listing}

/-- What was settled stays so as long as the field is not touched. -/
lemma Settles.congr {listingId : ℕ} {field : DiffField} {own : Option String} {text : String}
    {d d' e e' : Db} (h : Settles listingId field own text d d')
    (hbefore : rowsOf e listingId field = rowsOf d listingId field)
    (hafter : rowsOf e' listingId field = rowsOf d' listingId field) :
    Settles listingId field own text e e' := by
  simp only [Settles, TurnedDown.congr hbefore, Shows, pendingRows, hafter]
  exact h

lemma wp_compareField (hwf : DiffsWf s.data) (hnew : NewIds s)
    (hfixed : ∀ price ∈ listing.price, Fixed 6 price) (remote : RemoteListing)
    (field : DiffField) :
    (compareField listing remote field).wp (fun _ s' => Proceeds (Other listing.id field) s s' ∧
      (Differs listing remote field → Settles listing.id field (localValue listing field)
        (remoteValue remote field) s.data s'.data)) (fun _ _ => True) s := by
  simp only [compareField, differs_eq hfixed]
  by_cases hdiffers : Differs listing remote field
  · simp only [hdiffers, decide_true, true_implies]
    exact wp_openDiff hwf hnew listing field _ _
  · simp only [hdiffers, decide_false, Prog.pure_eq, Prog.wp_ret, false_implies, and_true]
    exact .refl hwf hnew

/-- Every listing but one. -/
def Elsewhere (listingId : ℕ) (id : ℕ) (_ : DiffField) : Prop := id ≠ listingId

/-- Two fields, one after the other. -/
lemma wp_compareFields (hwf : DiffsWf s.data) (hnew : NewIds s)
    (hfixed : ∀ price ∈ listing.price, Fixed 6 price) (remote : RemoteListing)
    {first second : DiffField} (hne : first ≠ second) :
    (compareField listing remote first).wp (fun _ s₁ =>
      (compareField listing remote second).wp (fun _ s' => Proceeds (Elsewhere listing.id) s s' ∧
        ∀ field, field = first ∨ field = second → Differs listing remote field →
          Settles listing.id field (localValue listing field) (remoteValue remote field) s.data
            s'.data) (fun _ _ => True) s₁) (fun _ _ => True) s := by
  apply Prog.wp_mono (wp_compareField hwf hnew hfixed remote first) ?_ fun _ _ _ => trivial
  rintro _ s₁ ⟨hfirst, hfirstSettles⟩
  apply Prog.wp_mono (wp_compareField hfirst.wf hfirst.new_ids hfixed remote second) ?_
    fun _ _ _ => trivial
  rintro _ s₂ ⟨hsecond, hsecondSettles⟩
  refine ⟨(hfirst.mono fun id f h hsame => h hsame.1).trans
    (hsecond.mono fun id f h hsame => h hsame.1), ?_⟩
  rintro field (rfl | rfl) hdiffers
  · exact (hfirstSettles hdiffers).congr rfl (hsecond.rows _ _ fun h => hne h.2)
  · have hbefore := hfirst.rows listing.id field fun h => hne h.2.symm
    exact (hsecondSettles hdiffers).congr hbefore.symm rfl

lemma wp_compare (snapshots : SnapshotPort) (hwf : DiffsWf s.data) (hnew : NewIds s)
    (hfixed : ∀ price ∈ listing.price, Fixed 6 price) :
    (compare snapshots listing).wp (fun _ s' => Proceeds (Elsewhere listing.id) s s' ∧
      ∀ remote, Answered snapshots s.data listing remote →
        Patrolled listing remote s.data s'.data) (fun _ _ => True) s := by
  simp only [compare, Prog.bind_eq, Prog.wp_bind, Prog.wp_select]
  cases hask : askFor snapshots s.data listing with
  | failed e => simp [raise]
  | refused =>
    simp only [Prog.pure_eq, Prog.wp_ret, Answered, hask, reduceCtorEq, false_implies,
      implies_true, and_true]
    exact .refl hwf hnew
  | answered remote =>
    simp only [Prog.wp_bind, Prog.pure_eq, Prog.wp_ret, Answered, hask, SnapshotAnswer.answered.injEq]
    have hne : DiffField.price ≠ .currency := by decide
    apply Prog.wp_mono (wp_compareFields hwf hnew hfixed remote hne) ?_ fun _ _ _ => trivial
    intro _ s₁ hrest
    apply Prog.wp_mono hrest ?_ fun _ _ _ => trivial
    rintro _ s₂ ⟨hproceeds, hsettles⟩
    refine ⟨hproceeds, ?_⟩
    rintro _ rfl field
    apply hsettles
    cases field with
    | price => exact Or.inl rfl
    | currency => exact Or.inr rfl

/-- The patrol goes through its listings one by one. -/
lemma wp_compareAll (snapshots : SnapshotPort) {listings : List Listing}
    (hkeyed : Keyed Listing.id listings) (hwf : DiffsWf s.data) (hnew : NewIds s)
    (hfixed : ∀ l ∈ listings, ∀ price ∈ l.price, Fixed 6 price) :
    (compareAll snapshots listings).wp (fun _ s' =>
      Proceeds (fun id _ => ∀ l ∈ listings, l.id ≠ id) s s' ∧
      ∀ l ∈ listings, ∀ remote, Answered snapshots s.data l remote →
        Patrolled l remote s.data s'.data) (fun _ _ => True) s := by
  induction listings generalizing s with
  | nil =>
    simp only [compareAll, Prog.pure_eq, Prog.wp_ret]
    exact ⟨.refl hwf hnew, fun l hl => by cases hl⟩
  | cons listing rest ih =>
    obtain ⟨hnotin, hrest⟩ := List.nodup_cons.mp hkeyed
    have hne : ∀ l ∈ rest, l.id ≠ listing.id := fun l hl hid =>
      hnotin (List.mem_map.mpr ⟨l, hl, hid⟩)
    simp only [compareAll, Prog.bind_eq, Prog.wp_bind, Prog.pure_eq, Prog.wp_ret]
    refine Prog.wp_mono (wp_compare snapshots hwf hnew (hfixed listing (by simp))) ?_
      fun _ _ _ => trivial
    rintro _ s₁ ⟨hfirst, hpatrolled⟩
    refine Prog.wp_mono (ih hrest hfirst.wf hfirst.new_ids
      fun l hl => hfixed l (List.mem_cons_of_mem listing hl)) ?_ fun _ _ _ => trivial
    rintro _ s₂ ⟨hlater, hothers⟩
    have hsame (l : Listing) : askFor snapshots s₁.data l = askFor snapshots s.data l := by
      rw [hfirst.frame]
      rfl
    refine ⟨(hfirst.mono fun id f h => (h listing (by simp)).symm).trans
      (hlater.mono fun id f h l hl => h l (List.mem_cons_of_mem listing hl)), ?_⟩
    intro l hl remote hanswered field hdiffers
    obtain rfl | hl := List.mem_cons.mp hl
    · exact (hpatrolled remote hanswered field hdiffers).congr rfl
        (hlater.rows _ _ fun l' hl' => hne l' hl')
    · have hbefore := hfirst.rows l.id field (hne l hl)
      have hanswered' : Answered snapshots s₁.data l remote := (hsame l).trans hanswered
      exact (hothers l hl remote hanswered' field hdiffers).congr hbefore.symm rfl

/-- What the database keeps of the listings: unique ids, and prices of six decimals. -/
structure ListingsWf (d : Db) : Prop where
  listings_keyed : Keyed Listing.id d.listings
  price_fixed : ∀ l ∈ d.listings, ∀ price ∈ l.price, Fixed 6 price

lemma ListingsWf.listLinked {d : Db} (h : ListingsWf d) : Keyed Listing.id (listLinked d) := by
  have hall : Keyed Listing.id
      ((d.listings.filter fun l => !l.deleted && l.status = .linked).insertionSort
        fun a b => a.id ≤ b.id) :=
    ((List.perm_insertionSort _ _).map Listing.id).nodup_iff.mpr
      (h.listings_keyed.sublist (List.filter_sublist.map _))
  exact hall.sublist ((List.take_sublist _ _).map _)

lemma mem_of_mem_listLinked {d : Db} {l : Listing} (h : l ∈ listLinked d) : l ∈ d.listings := by
  have hin := List.mem_of_mem_take h
  rw [List.mem_insertionSort] at hin
  exact (List.mem_filter.mp hin).1

/-- After a patrol every field in which a listing and the answer of its platform differ has one open
difference, with both values, unless this value was turned down. The listings are as before. -/
theorem patrol_settles {d : Db} {l : Session} {snapshots : SnapshotPort} (hlistings : ListingsWf d)
    (hdiffs : DiffsWf d) (hnew : NewIds ⟨l, d, []⟩)
    (hok : ((patrol snapshots).exec ⟨l, d, []⟩).1.isOk = true)
    (hscanned : listing ∈ listLinked d) {remote : RemoteListing}
    (hanswered : Answered snapshots d listing remote) {field : DiffField}
    (hdiffers : Differs listing remote field) :
    ((patrol snapshots).commit l d).listings = d.listings ∧
      Settles listing.id field (localValue listing field) (remoteValue remote field) d
        ((patrol snapshots).commit l d) := by
  have hrun : (patrol snapshots).wp (fun _ s' => s'.data.listings = d.listings ∧
      Settles listing.id field (localValue listing field) (remoteValue remote field) d s'.data)
      (fun _ _ => True) ⟨l, d, []⟩ := by
    simp only [patrol, Prog.bind_eq, Prog.wp_bind, Prog.wp_select, Prog.pure_eq, Prog.wp_ret]
    apply Prog.wp_mono (wp_compareAll snapshots hlistings.listLinked hdiffs hnew
      fun l' hl' => hlistings.price_fixed l' (mem_of_mem_listLinked hl')) ?_ fun _ _ _ => trivial
    rintro _ s' ⟨hproceeds, hpatrolled⟩
    refine ⟨?_, hpatrolled listing hscanned remote hanswered field hdiffers⟩
    rw [hproceeds.frame]
  obtain ⟨hfailed, -⟩ | hdone := Prog.commit_cases (R := fun d' => d'.listings = d.listings ∧
    Settles listing.id field (localValue listing field) (remoteValue remote field) d d') hrun
  · rw [hok] at hfailed
    cases hfailed
  · exact hdone

/-! ### A listing of ten dollars -/

def tenDollars : Listing where
  id := 7
  skuId := 5
  shopId := 4
  platformSkuId := some "S1"
  status := .linked
  platformProductId := some "P1"
  price := some 10
  currency := some "SGD"

/-- The shop of the listing, and what was noticed about it before. -/
def noticed (diffs : List ListingDiff) : Db where
  shops := [⟨4, "shopee", "", "SG"⟩]
  listings := [tenDollars]
  diffs

/-- The platform once showed fifteen dollars. -/
def fifteen (status : DiffStatus) : ListingDiff where
  id := 1
  listingId := 7
  shopId := 4
  fieldName := .price
  localValue := some "10.000000"
  remoteValue := "15.00"
  status := status

/-- What the platform shows, with two decimals. -/
def shown (cents : ℕ) : RemoteListing := ⟨.finite false cents (-2), "SGD"⟩

def showing (cents : ℕ) : SnapshotPort := fun _ _ _ => .answered (shown cents)

def diffWorker : Session := { ids := fun n => 100 + n }

/-- The platform shows fifteen dollars, and a difference is opened. -/
theorem patrol_settles_showing :
    Settles 7 .price (some "10.000000") "15.00" (noticed [])
      ((patrol (showing 1500)).commit diffWorker (noticed [])) := by
  have hlistings : ListingsWf (noticed []) := by
    refine ⟨by simp [noticed, Keyed], ?_⟩
    simp only [noticed, tenDollars, List.mem_singleton, forall_eq, Option.mem_some_iff, forall_eq']
    exact ⟨10000000, by norm_num⟩
  have hdiffs : DiffsWf (noticed []) :=
    ⟨by decide, fun _ _ => by simp [pendingRows, rowsOf, noticed]⟩
  have hnew : NewIds ⟨diffWorker, noticed [], []⟩ := by
    refine ⟨fun m n h => ?_, by simp [noticed]⟩
    simpa [diffWorker] using h
  have hscanned : tenDollars ∈ listLinked (noticed []) := by decide
  have hanswered : Answered (showing 1500) (noticed []) tenDollars (shown 1500) := by rfl
  have hdiffers : Differs tenDollars (shown 1500) .price := by decide +kernel
  have hsettles :=
    (patrol_settles hlistings hdiffs hnew (by decide +kernel) hscanned hanswered hdiffers).2
  have hown : localValue tenDollars .price = some "10.000000" := by decide +kernel
  have hremote : remoteValue (shown 1500) .price = "15.00" := by decide +kernel
  rw [hown, hremote] at hsettles
  exact hsettles

/-- A price that was dismissed differs and stays closed; and a difference stays open after the
platform has come to show the price of the listing, so that it can still be accepted. -/
theorem patrol_leaves :
    (let d := noticed [fifteen .dismissed];
      Answered (showing 1500) d tenDollars (shown 1500) ∧
      Differs tenDollars (shown 1500) .price ∧
      pendingRows ((patrol (showing 1500)).commit diffWorker d) 7 .price = []) ∧
    (let d := noticed [fifteen .pending];
      let d' := (patrol (showing 1000)).commit diffWorker d;
      Answered (showing 1000) d tenDollars (shown 1000) ∧
      ¬ Differs tenDollars (shown 1000) .price ∧
      pendingRows d' 7 .price = [fifteen .pending] ∧
      ((accept 1).commit diffWorker d').listings = [{ tenDollars with price := some 15 }]) :=
  ⟨⟨rfl, by decide +kernel, by decide +kernel⟩,
    rfl, by decide +kernel, by decide +kernel, by decide +kernel⟩

end Runs

end ListingDiffService

end CrossPilot
