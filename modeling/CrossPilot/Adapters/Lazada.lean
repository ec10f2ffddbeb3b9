import CrossPilot.Adapters.Unreadable
import CrossPilot.Lib.IsoTime

/-!
# Lazada's orders

Lazada writes dates with a blank in front of the offset. Two replacements make them dates of ISO 8601,
or nearly: the blank in front of an offset other than `+0000` becomes a second `T`, which the reader of
dates passes over (`lazada_dates`).

An order has a status for each state that its items are in, and the first is taken for the status of
the order. What follows from the order of the statuses and the items is `lazada_permuted`.
-/

namespace CrossPilot.Adapters

open Webhook IsoTime Readings

/-! ### Dates -/

/-- The first moment of 1970, in microseconds from the first day of the year 1 on. -/
def unixEpoch : ℤ := midnight 719163

/-- `datetime.fromisoformat`, with the instants of the development. -/
def fromisoformat (s : String) : Option Datetime :=
  (fromIsoFormat s).map fun m =>
    match m.offset with
    | some offset => .aware (m.clock - offset - unixEpoch)
    | none => .naive (m.clock - unixEpoch)

/-- The library with this reader of dates. -/
def withDates (py : Library) : Library := { py with fromisoformat }

/-- The instant at which the clocks of a zone show a time. -/
def instantOf (s : Stamp) (z : Zone) : Instant := s.clock - z.offset - unixEpoch

/-- A zone's clocks show every second of the years from 1 to 9999. -/
lemma exists_instantOf {t : ℤ} (z : Zone) (hwhole : 1000000 ∣ t)
    (hlow : 0 ≤ t + z.offset + unixEpoch)
    (hhigh : t + z.offset + unixEpoch < lastOrdinal * 86400 * 1000000) :
    ∃ s, instantOf s z = t := by
  have hzone : (1000000 : ℤ) ∣ z.offset := by
    simp only [Zone.offset]
    split_ifs <;> omega
  have hepoch : (1000000 : ℤ) ∣ unixEpoch := by
    decide
  obtain ⟨n, hn⟩ := (hwhole.add hzone).add hepoch
  obtain ⟨seconds, rfl⟩ := Int.eq_ofNat_of_zero_le (show 0 ≤ n by omega)
  have hseconds : seconds < lastOrdinal * 86400 := by
    omega
  obtain ⟨s, hs⟩ := exists_stamp hseconds
  refine ⟨s, ?_⟩
  have hclock : (seconds : ℤ) * 1000000 - z.offset - unixEpoch = t := by
    omega
  rw [instantOf, hs]
  exact hclock

/-- `YYYY-MM-DD HH:MM:SS +hhmm`. -/
def lazadaText (s : Stamp) (z : Zone) : String :=
  String.ofList (s.date ++ ' ' :: (s.time ++ ' ' :: z.sign :: z.digits))

/-- An order without its dates. -/
def undated (raw : JsonObject) : JsonObject :=
  raw.filter fun entry => entry.1 ≠ "created_at" && entry.1 ≠ "updated_at"

section dates

variable (s : Stamp) (z : Zone)

lemma sign_ne {c : Char} (hplus : c ≠ '+') (hminus : c ≠ '-') : c ≠ z.sign := by
  rw [Zone.sign]
  split_ifs
  · exact hminus
  · exact hplus

/-- The offset that Lazada writes at Greenwich. -/
def greenwich : List Char := ['+', '0', '0', '0', '0']

/-- After the first replacement only an offset of zero is as ISO 8601 has it. -/
lemma replaceFrom_greenwich (new : List Char) :
    Text.replaceFrom (' ' :: greenwich) new 0
        (s.date ++ ' ' :: (s.time ++ ' ' :: z.sign :: z.digits)) =
      s.date ++ ' ' :: (s.time ++ if z.sign :: z.digits = greenwich then new
        else ' ' :: z.sign :: z.digits) := by
  have htime : ∀ t, ¬ (' ' :: greenwich) <+: ' ' :: (s.time ++ t) := by
    intro t hprefix
    obtain ⟨rest, hrest⟩ := (List.cons_prefix_cons.mp hprefix).2
    have hplus : '+' ∉ s.time := notMem_time s rfl (by decide)
    have hfirst : '+' = Nat.digitChar (s.hour / 10) := congrArg (fun l => l.headD '+') hrest
    apply hplus
    rw [hfirst]
    simp [Stamp.time, two]
  rw [Text.replaceFrom_append (notMem_date s rfl (by decide)), Text.replaceFrom_cons (htime _),
    Text.replaceFrom_append (notMem_time s rfl (by decide))]
  congr 3
  split_ifs with h
  · have hself := @Text.replaceFrom_self ' ' greenwich new []
    rw [List.append_nil, Text.replaceFrom, List.append_nil] at hself
    rw [h, hself]
  · have hprefix : ¬ (' ' :: greenwich) <+: ' ' :: z.sign :: z.digits := by
      intro hprefix
      have hlength : z.digits.length = 4 := by
        simp [Zone.digits, two]
      refine h (List.IsPrefix.eq_of_length (List.cons_prefix_cons.mp hprefix).2 ?_).symm
      rw [List.length_cons, hlength]
      rfl
    have hblank : ' ' ∉ z.sign :: z.digits := by
      rw [List.mem_cons, not_or]
      exact ⟨sign_ne z (by decide) (by decide), notMem_digits z rfl⟩
    rw [Text.replaceFrom_cons hprefix, Text.replaceFrom_of_notMem hblank]

/-- What follows the time of day in the date that is read. -/
def zoneText (z : Zone) : List Char :=
  if z.sign :: z.digits = greenwich then ['+', '0', '0', ':', '0', '0']
  else 'T' :: z.sign :: z.digits

lemma lazadaText_ne : lazadaText s z ≠ "" := by
  intro h
  have hlist := congrArg String.toList h
  simp [lazadaText, Stamp.date, four, two] at hlist

lemma lazadaDate_text (py : Library) : lazadaDate py (.str (lazadaText s z)) =
    String.ofList (s.date ++ 'T' :: (s.time ++ zoneText z)) := by
  have htext : py.textOf (.str (lazadaText s z)) = lazadaText s z := by
    simp [Python.textOf, Json.orElse, Json.truthy, lazadaText_ne, Python.str]
  have hfirst : Text.replace " +0000" "+00:00" (lazadaText s z) = String.ofList
      (s.date ++ ' ' :: (s.time ++ if z.sign :: z.digits = greenwich then
        ['+', '0', '0', ':', '0', '0'] else ' ' :: z.sign :: z.digits)) := by
    rw [lazadaText, Text.replace_ofList]
    exact congrArg String.ofList (replaceFrom_greenwich s z _)
  rw [lazadaDate, htext, hfirst, Text.replace_ofList]
  congr 1
  have hblank : ∀ t, Text.replaceFrom [' '] ['T'] 0 (' ' :: t) =
      'T' :: Text.replaceFrom [' '] ['T'] 0 t := fun t => Text.replaceFrom_self
  have hzone : ' ' ∉ z.sign :: z.digits := by
    rw [List.mem_cons, not_or]
    exact ⟨sign_ne z (by decide) (by decide), notMem_digits z rfl⟩
  show Text.replaceFrom [' '] ['T'] 0 _ = _
  rw [Text.replaceFrom_append (notMem_date s rfl (by decide)), hblank,
    Text.replaceFrom_append (notMem_time s rfl (by decide)), zoneText]
  split_ifs
  · rw [Text.replaceFrom_of_notMem (by decide)]
  · rw [hblank, Text.replaceFrom_of_notMem hzone]

lemma notMem_zoneText : 'Z' ∉ zoneText z := by
  rw [zoneText]
  split_ifs
  · decide
  · simp only [List.mem_cons, not_or]
    exact ⟨by decide, sign_ne z (by decide) (by decide), notMem_digits z rfl⟩

/-- What is written like the offset at Greenwich is none. -/
lemma offset_eq_zero (h : z.sign :: z.digits = greenwich) : z.offset = 0 := by
  have hlt := z.lt_day
  have hread : digitsFrom 0 4 (z.digits ++ []) = some (z.minutes / 60 * 100 + z.minutes % 60, []) := by
    rw [Zone.digits, List.append_assoc, digitsFrom_two (by omega), digitsFrom_two (by omega),
      digitsFrom, zero_mul, zero_add]
  rw [List.append_nil, (List.cons.inj h).2] at hread
  have hzero : 0 = z.minutes / 60 * 100 + z.minutes % 60 := congrArg Prod.fst (Option.some.inj hread)
  have hminutes : z.minutes = 0 := by
    omega
  rw [Zone.offset, hminutes]
  simp

/-- A date of Lazada's is read as the instant for which it was written. -/
lemma dtFromIso_lazadaDate (py py' : Library) :
    dtFromIso (withDates py) (lazadaDate py' (.str (lazadaText s z))) =
      .ok (.aware (instantOf s z)) := by
  have hz : 'Z' ∉ s.date ++ 'T' :: (s.time ++ zoneText z) := by
    simp only [List.mem_append, List.mem_cons, not_or]
    exact ⟨notMem_date s rfl (by decide), by decide, notMem_time s rfl (by decide),
      notMem_zoneText z⟩
  have hsame : Text.replace "Z" "+00:00" (lazadaDate py' (.str (lazadaText s z))) =
      String.ofList (s.date ++ 'T' :: (s.time ++ zoneText z)) := by
    rw [lazadaDate_text, Text.replace_ofList]
    exact congrArg String.ofList (Text.replaceFrom_of_notMem hz)
  have hread : fromIsoFormat (String.ofList (s.date ++ 'T' :: (s.time ++ zoneText z))) =
      some { clock := s.clock, offset := some z.offset } := by
    rw [zoneText]
    split_ifs with h
    · have hstop : follow true '+' [] = .stop true := by
        simp [follow, nul]
      have hzero : readZone ['+', '0', '0', ':', '0', '0'] = some (some 0) := by
        decide
      have hread := fromIsoFormat_stamp s rfl (by simp) hstop hzero
      rw [List.append_nil] at hread
      rw [hread, offset_eq_zero z h]
    · have hstop : follow true z.sign ['T'] = .stop true := by
        simp [follow, nul]
      have hjunk : ∀ x ∈ ['T'], startsZone x = false := by
        simp [startsZone]
      have hread := fromIsoFormat_stamp s (startsZone_sign z) hjunk hstop (readZone_digits z)
      rwa [List.append_assoc] at hread
  have hiso : isoTime (withDates py) (lazadaDate py' (.str (lazadaText s z))) =
      some (.aware (instantOf s z)) := by
    rw [isoTime, hsame]
    show fromisoformat _ = _
    rw [fromisoformat, hread]
    rfl
  rw [dtFromIso, hiso]

lemma lazadaDate_text_ne (py : Library) : lazadaDate py (.str (lazadaText s z)) ≠ "" := by
  intro h
  have hlist := congrArg String.toList h
  rw [lazadaDate_text, String.toList_ofList] at hlist
  simp at hlist

end dates

section dated

variable {raw : JsonObject} {key : String}

lemma lookup_undated (hcreated : key ≠ "created_at") (hupdated : key ≠ "updated_at") :
    (undated raw).lookup key = raw.lookup key := by
  induction raw with
  | nil => rfl
  | cons entry raw ih =>
    obtain ⟨k, v⟩ := entry
    rw [undated, List.filter_cons]
    by_cases hkey : key = k
    · subst hkey
      simp [hcreated, hupdated]
    · split_ifs
      · simp only [List.lookup_cons, beq_false_of_ne hkey]
        exact ih
      · simp only [List.lookup_cons, beq_false_of_ne hkey]
        exact ih

lemma get_undated (hcreated : key ≠ "created_at") (hupdated : key ≠ "updated_at") :
    (undated raw).get key = raw.get key := by
  rw [JsonObject.get, lookup_undated hcreated hupdated, JsonObject.get]

lemma subscript_undated (hcreated : key ≠ "created_at") (hupdated : key ≠ "updated_at") :
    subscript (undated raw) key = subscript raw key := by
  rw [subscript, lookup_undated hcreated hupdated, subscript]

lemma lazadaDate_null (py : Library) : lazadaDate py .null = "" := by
  rw [lazadaDate]
  rfl

lemma get_undated_date (h : key = "created_at" ∨ key = "updated_at") :
    (undated raw).get key = .null := by
  have hnone : (undated raw).lookup key = none := by
    rw [List.lookup_eq_none_iff]
    intro entry hentry
    have hkeys := (List.mem_filter.mp hentry).2
    rw [Bool.and_eq_true, decide_eq_true_eq, decide_eq_true_eq] at hkeys
    obtain rfl | rfl := h
    · exact bne_iff_ne.mpr hkeys.1.symm
    · exact bne_iff_ne.mpr hkeys.2.symm
  rw [JsonObject.get, hnone, Option.getD_none]

/-- Dates in Lazada's format are read as the instants for which they were written, and an order with
such dates is the order without them but for these instants. -/
theorem lazada_dates (py : Library) (now : Instant) (shopId status : String) (raw : JsonObject)
    (created updated : Stamp) (z w : Zone)
    (hcreated : raw.get "created_at" = .str (lazadaText created z))
    (hupdated : raw.get "updated_at" = .str (lazadaText updated w)) :
    (∀ order, lazadaOrder (withDates py) now shopId status raw = .ok order →
      order.paidAt = some (.aware (instantOf created z)) ∧
      order.updatedAt = .aware (instantOf updated w)) ∧
    lazadaOrder (withDates py) now shopId status raw =
      (fun order => { order with
        paidAt := some (.aware (instantOf created z))
        updatedAt := .aware (instantOf updated w)
        raw }) <$> lazadaOrder (withDates py) now shopId status (undated raw) := by
  have horElse : (Json.str (lazadaText updated w)).orElse (.str (lazadaText created z)) =
      .str (lazadaText updated w) := by
    simp [Json.orElse, Json.truthy, lazadaText_ne]
  have hpaid : readPaidAt (fun _ => dtFromIso (withDates py)
      (lazadaDate (withDates py) (raw.get "created_at")))
        (.str (lazadaDate (withDates py) (raw.get "created_at"))) =
          .ok (some (.aware (instantOf created z))) := by
    rw [hcreated, readPaidAt, if_pos (by simp [Json.truthy, lazadaDate_text_ne]),
      dtFromIso_lazadaDate]
    rfl
  have hread : lazadaUpdatedAt (withDates py) now (lazadaDate (withDates py)
      ((raw.get "updated_at").orElse (raw.get "created_at"))) =
        .ok (.aware (instantOf updated w)) := by
    rw [hupdated, hcreated, horElse, lazadaUpdatedAt, if_pos (lazadaDate_text_ne updated w _),
      dtFromIso_lazadaDate]
  have heq : lazadaOrder (withDates py) now shopId status raw =
      (fun order => { order with
        paidAt := some (.aware (instantOf created z))
        updatedAt := .aware (instantOf updated w)
        raw }) <$> lazadaOrder (withDates py) now shopId status (undated raw) := by
    have hnull : Json.null.orElse .null = .null := rfl
    have hok : ∀ {α β : Type} (a : α) (k : α → Except Failure β), (Except.ok a >>= k) = k a :=
      fun a k => rfl
    have hnone : readPaidAt (fun _ => dtFromIso (withDates py) "") (.str "") = .ok none := rfl
    have hnow : lazadaUpdatedAt (withDates py) now "" = .ok (.aware now) := rfl
    rw [lazadaOrder, lazadaOrder]
    simp (disch := simp) only [lazadaStatus, get_undated, subscript_undated, get_undated_date,
      hpaid, hread, hnull, lazadaDate_null, hnone, hnow, hok, map_bind, map_pure]
  refine ⟨fun order horder => ?_, heq⟩
  rw [heq] at horder
  cases hundated : lazadaOrder (withDates py) now shopId status (undated raw) with
  | error e => simp [hundated] at horder
  | ok o =>
    rw [hundated] at horder
    cases horder
    exact ⟨rfl, rfl⟩

end dated

def plainLibrary : Library where
  loads _ := .error .json
  loadsText _ := .error .json
  repr _ := ""
  fromisoformat := fromisoformat
  sha256 _ := ""
  upper := id

/-- Ten o'clock in Singapore. -/
def tenOClock : Stamp where
  year := 2026
  month := 1
  day := 15
  hour := 10
  minute := 0
  second := 0
  isDate := by decide
  isTimeOfDay := by decide

def singapore : Zone := ⟨false, 480, by decide⟩

def datedOrder : JsonObject :=
  [("order_id", .str "1"), ("price", .str "1"),
    ("created_at", .str (lazadaText tenOClock singapore)),
    ("updated_at", .str (lazadaText tenOClock singapore))]

lemma requireMoney_one : requireMoney plainLibrary .lazada (.str "1") =
    .ok (.number (.finite false 1 0)) := by
  have hprice : dec plainLibrary (.str "1") = some (.number (.finite false 1 0)) := by
    decide
  rw [requireMoney, hprice]

theorem lazada_dates_singapore : lazadaText tenOClock singapore = "2026-01-15 10:00:00 +0800" ∧
    (lazadaOrder (withDates plainLibrary) 0 "1" "PAID" datedOrder).map (·.updatedAt) =
      .ok (.aware 1768442400000000) := by
  have hdated := (lazada_dates plainLibrary 0 "1" "PAID" datedOrder tenOClock tenOClock singapore
    singapore rfl rfl).2
  have hundated : ∃ o, lazadaOrder (withDates plainLibrary) 0 "1" "PAID" (undated datedOrder) =
      .ok o := by
    have hsame : withDates plainLibrary = plainLibrary := rfl
    have hget : (undated datedOrder).get "price" = .str "1" := rfl
    have hcreated : (undated datedOrder).get "created_at" = .null := rfl
    have hupdated : (undated datedOrder).get "updated_at" = .null := rfl
    have hnull : Json.null.orElse .null = .null := rfl
    rw [hsame, lazadaOrder, hget, requireMoney_one, hcreated, hupdated, hnull, lazadaDate_null]
    exact ⟨_, rfl⟩
  have hinstant : instantOf tenOClock singapore = 1768442400000000 := by
    decide
  obtain ⟨o, ho⟩ := hundated
  refine ⟨by decide, ?_⟩
  rw [hdated, ho, hinstant]
  rfl

/-! ### Statuses and items -/

/-- Two orders that differ in the order of their statuses and of their items, at most. -/
structure Shuffled (raw raw' : JsonObject) : Prop where
  rest : ∀ key, key ≠ "statuses" → key ≠ "items" → raw'.lookup key = raw.lookup key
  statuses : raw'.get "statuses" = raw.get "statuses" ∨ ∃ l l', raw.get "statuses" = .list l ∧
    raw'.get "statuses" = .list l' ∧ l.Perm l'
  items : raw'.get "items" = raw.get "items" ∨ ∃ l l', raw.get "items" = .list l ∧
    raw'.get "items" = .list l' ∧ l.Perm l'

/-- The statuses of an order, if they are a list. -/
def statusesOf (raw : JsonObject) : List Json := listOf (raw.get "statuses")

/-- The same order but for the order of its items, or no order both times. -/
def Alike (raw' : JsonObject) : Except Failure UnifiedOrder → Except Failure UnifiedOrder → Prop
  | .ok o, .ok o' => o'.platformStatus = o.platformStatus ∧ o'.unifiedStatus = o.unifiedStatus ∧
    o.items.Perm o'.items ∧ o' = { o with items := o'.items, raw := raw' }
  | .error _, .error _ => True
  | _, _ => False

section shuffled

variable {raw raw' : JsonObject} (h : Shuffled raw raw')

include h

lemma Shuffled.get {key : String} (hstatuses : key ≠ "statuses") (hitems : key ≠ "items") :
    raw'.get key = raw.get key := by
  rw [JsonObject.get, h.rest key hstatuses hitems, JsonObject.get]

lemma Shuffled.subscript {key : String} (hstatuses : key ≠ "statuses") (hitems : key ≠ "items") :
    Adapters.subscript raw' key = Adapters.subscript raw key := by
  rw [Adapters.subscript, h.rest key hstatuses hitems, Adapters.subscript]

lemma Shuffled.readItems (py : Library) : PermResult
    (readItems py .lazada lazadaKeys "item_price" (raw.get "items"))
    (readItems py .lazada lazadaKeys "item_price" (raw'.get "items")) := by
  obtain hsame | ⟨l, l', hl, hl', hperm⟩ := h.items
  · rw [hsame]
    cases Adapters.readItems py .lazada lazadaKeys "item_price" (raw.get "items") with
    | error e => trivial
    | ok items => exact List.Perm.refl items
  · rw [hl, hl']
    have hlist : ∀ m : List Json, iterate ((Json.list m).orElse (.list [])) = .ok m := by
      intro m
      cases m <;> rfl
    simp only [Adapters.readItems, hlist]
    exact permResult_mapM hperm

variable (hfirst : (statusesOf raw').head? = (statusesOf raw).head?)

include hfirst

/-- The statuses are the same, or two lists that begin alike. -/
lemma Shuffled.statuses_cases : raw'.get "statuses" = raw.get "statuses" ∨
    ∃ c l l', raw.get "statuses" = .list (c :: l) ∧ raw'.get "statuses" = .list (c :: l') := by
  obtain hsame | ⟨l, l', hl, hl', -⟩ := h.statuses
  · exact Or.inl hsame
  · rw [statusesOf, statusesOf, hl, hl'] at hfirst
    cases l with
    | nil =>
      cases l' with
      | nil => exact Or.inl (by rw [hl, hl'])
      | cons c l' => cases hfirst
    | cons c l =>
      cases l' with
      | nil => cases hfirst
      | cons d l' =>
        cases hfirst
        exact Or.inr ⟨c, l, l', hl, hl'⟩

lemma Shuffled.lazadaStatus : lazadaStatus raw' = lazadaStatus raw := by
  rw [Adapters.lazadaStatus, Adapters.lazadaStatus]
  obtain hsame | ⟨c, l, l', hl, hl'⟩ := h.statuses_cases hfirst
  · rw [hsame]
  · rw [hl, hl']
    rfl

lemma Shuffled.lazadaFirstStatus (py : Library) :
    lazadaFirstStatus py raw' = lazadaFirstStatus py raw := by
  rw [Adapters.lazadaFirstStatus, Adapters.lazadaFirstStatus]
  obtain hsame | ⟨c, l, l', hl, hl'⟩ := h.statuses_cases hfirst
  · rw [hsame]
  · rw [hl, hl']
    rfl

end shuffled

/-- The order of the items changes nothing but the order of what is read, and neither does that of the
statuses as long as the first stays. -/
theorem lazada_permuted (py : Library) (now : Instant) (shopId : String) (raw raw' : JsonObject)
    (h : Shuffled raw raw') (hfirst : (statusesOf raw').head? = (statusesOf raw).head?) :
    Alike raw' (readOrder py now shopId .lazada raw) (readOrder py now shopId .lazada raw') := by
  have hitems := h.readItems py
  rw [readOrder, readOrder, h.lazadaFirstStatus hfirst py, lazadaOrder, lazadaOrder,
    h.lazadaStatus hfirst]
  simp (disch := simp) only [h.get, h.subscript]
  cases lazadaStatus raw with
  | error e => trivial
  | ok status =>
    cases hread : readItems py .lazada lazadaKeys "item_price" (raw.get "items") <;>
      cases hread' : readItems py .lazada lazadaKeys "item_price" (raw'.get "items") <;>
      rw [hread, hread'] at hitems
    · trivial
    · exact hitems.elim
    · exact hitems.elim
    · rename_i items items'
      -- the rest of the order is read from fields that the two orders share
      cases subscript raw "order_id" with
      | error e => trivial
      | ok orderId =>
        cases requireMoney py .lazada (raw.get "price") with
        | error e => trivial
        | ok total =>
          generalize readPaidAt _ _ = paidAt
          generalize lazadaUpdatedAt _ _ _ = updatedAt
          generalize readFees _ _ _ _ = fees
          cases paidAt with
          | error e => trivial
          | ok paidAt =>
            cases updatedAt with
            | error e => trivial
            | ok updatedAt =>
              cases fees with
              | error e => trivial
              | ok fees => exact ⟨rfl, rfl, hitems, rfl⟩

/-- An order whose items are in two states. -/
def mixedOrder (statuses : List String) : JsonObject :=
  [("order_id", .str "1"), ("price", .str "1"), ("statuses", .list (statuses.map .str))]

lemma exists_mixedOrder (status : String) (statuses : List String) :
    ∃ o, readOrder plainLibrary 0 "1" .lazada (mixedOrder (status :: statuses)) = .ok o ∧
      o.platformStatus = status := by
  have hprice : (mixedOrder (status :: statuses)).get "price" = .str "1" := rfl
  have hcreated : (mixedOrder (status :: statuses)).get "created_at" = .null := rfl
  have hupdated : (mixedOrder (status :: statuses)).get "updated_at" = .null := rfl
  have hnull : Json.null.orElse .null = .null := rfl
  rw [readOrder, lazadaOrder, hprice, requireMoney_one, hcreated, hupdated, hnull, lazadaDate_null]
  exact ⟨_, rfl, rfl⟩

lemma shuffled_mixedOrder {statuses statuses' : List String} (h : statuses.Perm statuses') :
    Shuffled (mixedOrder statuses) (mixedOrder statuses') where
  rest key hstatuses _ := by
    simp only [mixedOrder, List.lookup_cons, beq_false_of_ne hstatuses, List.lookup_nil]
  statuses := Or.inr ⟨_, _, rfl, rfl, h.map Json.str⟩
  items := Or.inl rfl

/-- With another status in front, another status is the order's. -/
theorem lazada_status_depends : ¬ ∀ (py : Library) (now : Instant) (shopId : String)
    (raw raw' : JsonObject), Shuffled raw raw' →
      Alike raw' (readOrder py now shopId .lazada raw) (readOrder py now shopId .lazada raw') := by
  intro h
  have halike := h plainLibrary 0 "1" _ _
    (shuffled_mixedOrder (List.Perm.swap "pending" "shipped" []))
  obtain ⟨o, ho, hshipped⟩ := exists_mixedOrder "shipped" ["pending"]
  obtain ⟨o', ho', hpending⟩ := exists_mixedOrder "pending" ["shipped"]
  rw [ho, ho'] at halike
  have hsame := halike.1
  rw [hshipped, hpending] at hsame
  exact absurd hsame (by decide)

theorem lazada_permuted_shipped :
    Alike (mixedOrder ["shipped", "pending", "packed"])
      (readOrder plainLibrary 0 "1" .lazada (mixedOrder ["shipped", "packed", "pending"]))
      (readOrder plainLibrary 0 "1" .lazada (mixedOrder ["shipped", "pending", "packed"])) :=
  lazada_permuted plainLibrary 0 "1" _ _
    (shuffled_mixedOrder ((List.Perm.swap "pending" "packed" []).cons "shipped")) rfl

end CrossPilot.Adapters
