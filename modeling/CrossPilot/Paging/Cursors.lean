import CrossPilot.Lib.Base64
import CrossPilot.Lib.IsoFormat
import CrossPilot.Order.ToShip
import CrossPilot.Paging.Loads

/-!
# Page cursors

A cursor is a JSON object in Base64. What is damaged counts as an empty object, but what holds another
value of JSON is handed to the readers as it is, and fails there (`list_cursor`). The readers of the
orders, of the orders to ship and of the stock take an object without an id for no cursor; the reader
of the listing differences has nothing to show for it. What has been written is read as it was
(`cursors_read`).
-/

namespace CrossPilot.Paging

open Webhook IsoTime

/-- What the code takes from Python: how numbers are rounded, how many containers of a text may be
open at a time, and the texts of fractions, lists and objects. -/
structure Library where
  real : String → PyFloat
  depth : ℕ
  depth_pos : 0 < depth
  repr : Json → String

/-- A library to try things with. -/
def plainLibrary : Library := ⟨fun _ => .finite 0, 100, by decide, fun _ => ""⟩

section functions

variable (lib : Library)

/-- `encode_cursor`. -/
def encodeCursor (payload : Payload) : String :=
  String.ofList (Base64.encode (Base64.utf8 (dumps payload)))

/-- What a cursor holds, if it is not damaged. -/
def held (cursor : String) : Option Json :=
  (Base64.decode (Base64.padded cursor.toList)).bind fun bytes =>
    (Base64.utf8Decode bytes).bind (loads lib.real lib.depth)

/-- `decode_cursor`. -/
def decodeCursor (cursor : String) : Json := (held lib cursor).getD (.dict [])

/-- What is raised for a value that is no object. -/
def attributeError : String := "object has no attribute 'get'"

/-! ### The order desk -/

/-- A value as the order desk looks at it. An infinite number has no place in its cursors, like
`None`. -/
def cursorValue : Json → CursorValue
  | .null => .null
  | .bool b => .bool b
  | .int n => .number n
  | .float (.finite q) => .number q
  | .float _ => .null
  | .str s => .text s
  | .list _ | .dict _ => .nested

/-- A value that the order desk writes. -/
def scalar : CursorValue → Scalar
  | .text s => .text s
  | .number q => .digit (Fin.ofNat 10 q.num.toNat)
  | _ => .text ""

/-- The first moment of 1970. -/
def epoch : ℤ := midnight 719163

/-- The cursors and times of the order desk. A time without a zone is one in UTC. -/
def codec : Codec where
  decodeCursor cursor :=
    match decodeCursor lib cursor with
    | .dict entries => .ok (entries.map fun e => (e.1, cursorValue e.2))
    | _ => .error attributeError
  encodeCursor payload := encodeCursor (payload.map fun e => (e.1, scalar e.2))
  fromisoformat text := (fromIsoFormat text).map fun m => m.clock - m.offset.getD 0 - epoch
  isoformat t := isoFormat (t + epoch).toNat

/-! ### Other readers -/

/-- `payload.get("id")`. -/
def heldId (cursor : String) : Except ServiceError Json :=
  match decodeCursor lib cursor with
  | .dict entries => .ok (JsonObject.get entries "id")
  | _ => .error (.value attributeError)

/-- `str(raw).strip()`. -/
def strippedText (raw : Json) : String :=
  Text.strip (match raw with
    | .null => "None"
    | .bool b => if b then "True" else "False"
    | .int n => toString n
    | .str s => s
    | raw => lib.repr raw)

/-- `_cursor_id`, of the stock. -/
def cursorId (cursor : Option String) : Except ServiceError (Option ℕ) :=
  let text := cursor.getD ""
  if text = "" then .ok none
  else do
    match ← heldId lib text with
    | .null => return none
    | raw =>
      let digits := strippedText lib raw
      if digits.toList.all (fun c => c.toNat < 128) && Text.isDigits digits then
        return some (← intOf digits)
      else return none

/-- `_before`, of the listing differences. -/
def before (cursor : Option String) : Except ServiceError (Option ℤ) :=
  let text := cursor.getD ""
  if text = "" then .ok none
  else do
    match ← heldId lib text with
    | .null => .error .notFound
    | raw =>
      match raw.toInt with
      | .ok n => return some n
      | .error .valueError => .error .notFound
      | .error .typeError => .error (.value "int() argument must be a string or a real number")
      | .error .overflowError => .error (.value "cannot convert float infinity to integer")

/-- The cursor behind a row, of the stock and of the listing differences. -/
def idCursor (id : ℕ) : String := encodeCursor [("id", .text (toString id))]

end functions

/-! ### What has been written is read as it was -/

section written

variable {lib : Library}

lemma held_encodeCursor {payload : Payload} (h : (payload.map Prod.fst).Nodup) :
    held lib (encodeCursor payload) = some (.dict payload.json) := by
  rw [held, encodeCursor, String.toList_ofList, Base64.decode_padded (Base64.utf8_lt _),
    Option.bind_some, Base64.utf8Decode_utf8, Option.bind_some, loads_dumps lib.real lib.depth_pos h]

lemma decodeCursor_encodeCursor {payload : Payload} (h : (payload.map Prod.fst).Nodup) :
    decodeCursor lib (encodeCursor payload) = .dict payload.json := by
  rw [decodeCursor, held_encodeCursor h, Option.getD_some]

lemma held_empty : held lib "" = none := by
  have hloads : loads lib.real lib.depth [] = none := rfl
  have hbytes : Base64.decode (Base64.padded "".toList) = some [] := by decide
  have hchars : Base64.utf8Decode [] = some [] := by
    have := Base64.utf8Decode_utf8 []
    exact this
  rw [held, hbytes, Option.bind_some, hchars, Option.bind_some, hloads]

lemma encodeCursor_ne {payload : Payload} (h : (payload.map Prod.fst).Nodup) :
    encodeCursor payload ≠ "" := by
  intro hempty
  have hheld : held plainLibrary (encodeCursor payload) = _ := held_encodeCursor h
  rw [hempty, held_empty] at hheld
  cases hheld

/-- A value that the order desk writes is read as it was. -/
def IsWritten (v : CursorValue) : Prop := cursorValue (scalar v).json = v

lemma codec_decodeCursor {payload : CursorPayload} (h : (payload.map Prod.fst).Nodup)
    (hwritten : ∀ e ∈ payload, IsWritten e.2) :
    (codec lib).decodeCursor ((codec lib).encodeCursor payload) = .ok payload := by
  have hnodup : ((payload.map fun e => (e.1, scalar e.2)).map Prod.fst).Nodup := by
    rw [List.map_map]
    exact h
  have hback : ((payload.map fun e => (e.1, scalar e.2)).map fun e => (e.1, e.2.json)).map
      (fun e => (e.1, cursorValue e.2)) = payload := by
    rw [List.map_map, List.map_map]
    conv_rhs => rw [← List.map_id payload]
    apply List.map_congr_left
    intro e he
    exact Prod.ext rfl (hwritten e he)
  simp only [codec, decodeCursor_encodeCursor hnodup, Payload.json]
  rw [hback]

lemma codec_encodeCursor_ne {payload : CursorPayload} (h : (payload.map Prod.fst).Nodup) :
    (codec lib).encodeCursor payload ≠ "" := by
  apply encodeCursor_ne
  rw [List.map_map]
  exact h

/-- A time of a year from 1 to 9999. -/
def IsDatetime (t : ℤ) : Prop := -epoch ≤ t ∧ t < lastOrdinal * 86400000000 - epoch

lemma fromisoformat_isoformat {t : ℤ} (h : IsDatetime t) :
    (codec lib).fromisoformat ((codec lib).isoformat t) = some t := by
  obtain ⟨hfirst, hlast⟩ := h
  have hnat : ((t + epoch).toNat : ℤ) = t + epoch := Int.toNat_of_nonneg (by omega)
  have hread := fromIsoFormat_isoFormat
    (show (t + epoch).toNat < lastOrdinal * 86400000000 by omega)
  show (fromIsoFormat (isoFormat (t + epoch).toNat)).map _ = _
  rw [hread, Option.map_some, hnat, Option.getD_some, sub_zero, add_sub_cancel_right]

lemma isoFormat_ne (micros : ℕ) : isoFormat micros ≠ "" := by
  intro hempty
  have hchars := congrArg String.toList hempty
  simp [isoFormat, four, two] at hchars

lemma isWritten_text (s : String) : IsWritten (.text s) := rfl

lemma isWritten_rank {n : ℕ} (h : n < 10) : IsWritten (.number n) := by
  have hn : n % 10 = n := Nat.mod_eq_of_lt h
  simp [IsWritten, scalar, cursorValue, Scalar.json, hn]

/-- What an order's cursor holds. -/
def orderPayload (c : Codec) (t : Instant) (id : ℕ) : CursorPayload :=
  [("t", .text (c.isoformat t)), ("id", .text (toString id))]

lemma writeOrderCursor_eq (c : Codec) (t : Instant) (id : ℕ) :
    writeOrderCursor c t id = c.encodeCursor (orderPayload c t id) := rfl

/-- The reader, on a cursor of which all that it reads is known. -/
lemma readOrderCursor_of_payload {c : Codec} {t : Instant} {id : ℕ} {cursor : String}
    (hne : cursor ≠ "") (hpayload : c.decodeCursor cursor = .ok (orderPayload c t id))
    (htime : c.fromisoformat (c.isoformat t) = some t) (hid : id < 2 ^ 63) :
    readOrderCursor c (some cursor) = .ok (some (t, id)) := by
  have ht : (orderPayload c t id).lookup "t" = some (.text (c.isoformat t)) := rfl
  have hlookup : (orderPayload c t id).lookup "id" = some (.text id.repr) := rfl
  have hdigits : Text.isDigits id.repr = true := Text.isDigits_repr id
  have hint : intOf id.repr = .ok id := by simp only [intOf, Text.toInt_repr hid]
  simp only [readOrderCursor, Option.getD_some, if_neg hne, CrossPilot.decodeCursor, hpayload]
  simp [ht, hlookup, CursorValue.digits?, hdigits, hint, htime, bind, Except.bind, pure,
    Except.pure]

/-- The cursor of the order list is read as it was written. -/
theorem readOrderCursor_write {t : Instant} {id : ℕ} (ht : IsDatetime t) (hid : id < 2 ^ 63) :
    readOrderCursor (codec lib) (some (writeOrderCursor (codec lib) t id)) =
      .ok (some (t, id)) := by
  have hkeys : ((orderPayload (codec lib) t id).map Prod.fst).Nodup := by simp [orderPayload]
  have hwritten : ∀ e ∈ orderPayload (codec lib) t id, IsWritten e.2 := by
    simp [orderPayload, isWritten_text]
  rw [writeOrderCursor_eq]
  exact readOrderCursor_of_payload (codec_encodeCursor_ne hkeys) (codec_decodeCursor hkeys hwritten)
    (fromisoformat_isoformat ht) hid

/-- The cursor of the orders to ship gives back what it was made of. -/
lemma readsBack {ctx : QueryContext} {order : SalesOrder} (hcodec : ctx.codec = codec lib)
    (hpaid : ∀ paid ∈ order.paidAt, IsDatetime paid) : ReadsBack ctx order where
  payload := by
    have hrank : IsWritten (.number (cursorRank ctx order)) := by
      obtain h | h | h := cursorRank_cases ctx order <;> rw [h] <;> exact isWritten_rank (by simp)
    rw [hcodec]
    have hpayload : (codec lib).decodeCursor ((codec lib).encodeCursor (deadlinePayload ctx order)) =
        .ok (deadlinePayload ctx order) :=
      codec_decodeCursor (by simp [deadlinePayload])
        (by simp [deadlinePayload, isWritten_text, hrank])
    rw [← hpayload, ← hcodec]
    rfl
  cursor_ne := by
    rw [writeDeadlineCursor, hcodec]
    exact encodeCursor_ne (by simp)
  time_ne := by
    intro paid _
    rw [hcodec]
    exact isoFormat_ne _
  time := by
    intro paid h
    rw [hcodec]
    exact fromisoformat_isoformat (hpaid paid h)

lemma heldId_idCursor (id : ℕ) : heldId lib (idCursor id) = .ok (.str id.repr) := by
  rw [heldId, idCursor, decodeCursor_encodeCursor (by simp)]
  rfl

lemma idCursor_ne (id : ℕ) : idCursor id ≠ "" := encodeCursor_ne (by simp)

/-- The cursor of the stock is read as it was written. -/
theorem cursorId_idCursor {id : ℕ} (h : id < 2 ^ 63) :
    cursorId lib (some (idCursor id)) = .ok (some id) := by
  have hascii : id.repr.toList.all (fun c => c.toNat < 128) = true := by
    apply List.all_eq_true.mpr
    intro c hc
    have := (Text.toNat_of_mem_repr hc).2
    simp only [decide_eq_true_eq]
    omega
  simp only [Nat.repr, String.toList_ofList] at hascii
  have hstripped : strippedText lib (.str id.repr) = id.repr := Text.strip_repr id
  have hdigits : Text.isDigits id.repr = true := Text.isDigits_repr id
  have hint : intOf id.repr = .ok id := by simp only [intOf, Text.toInt_repr h]
  simp [cursorId, idCursor_ne, heldId_idCursor, hstripped, hascii, hdigits, hint, bind, Except.bind,
    pure, Except.pure]

/-- The cursor of the listing differences is read as it was written. -/
theorem before_idCursor {id : ℕ} (h : id < 2 ^ 63) :
    before lib (some (idCursor id)) = .ok (some (id : ℤ)) := by
  have hint : (Json.str id.repr).toInt = .ok (id : ℤ) := by
    rw [Json.toInt, Text.readInt_repr h, Option.elim_some]
  simp [before, idCursor_ne, heldId_idCursor, hint, bind, Except.bind, pure, Except.pure]

end written

/-! ### What the readers make of an object -/

section readers

variable {lib : Library} {text : String} {entries : JsonObject}

/-- An object whose fields every reader can take: where a number is to be read, `int` reads it, and
no list, object or infinite number stands where there is to be none. -/
structure Readable (lib : Library) (entries : JsonObject) : Prop where
  digits : ∀ s, entries.lookup "id" = some (.str s) → Text.isDigits s →
    (Text.toInt s).isSome
  stripped : (strippedText lib (entries.get "id")).toList.all (fun c => c.toNat < 128) →
    Text.isDigits (strippedText lib (entries.get "id")) →
    (Text.toInt (strippedText lib (entries.get "id"))).isSome
  rank_scalar : cursorValue (entries.get "r") ≠ .nested
  id_scalar : cursorValue (entries.get "id") ≠ .nested
  id_finite : ∀ negative, entries.get "id" ≠ .float (.infinite negative)

lemma lookup_map (key : String) : (entries.map fun e => (e.1, cursorValue e.2)).lookup key =
    (entries.lookup key).map cursorValue := by
  induction entries with
  | nil => rfl
  | cons e entries ih =>
    obtain ⟨k, v⟩ := e
    simp only [List.map_cons, List.lookup_cons]
    cases key == k with
    | true => rfl
    | false => exact ih

lemma intOf_eq_ok {digits : String} (h : (Text.toInt digits).isSome) : ∃ n, intOf digits = .ok n := by
  obtain ⟨n, hn⟩ := Option.isSome_iff_exists.mp h
  exact ⟨n, by rw [intOf, hn]⟩

lemma ne_of_held (h : held lib text = some (.dict entries)) : text ≠ "" := by
  intro hempty
  rw [hempty, held_empty] at h
  cases h

lemma decodeCursor_of_held (h : held lib text = some (.dict entries)) :
    CrossPilot.decodeCursor (codec lib) text =
      .ok (entries.map fun e => (e.1, cursorValue e.2)) := by
  have hdecode : decodeCursor lib text = .dict entries := by rw [decodeCursor, h, Option.getD_some]
  simp only [CrossPilot.decodeCursor, codec, hdecode]

/-- The digits that the order desk reads are a number. -/
lemma exists_intOf (hread : Readable lib entries) {rawId : String}
    (h : CursorValue.digits? ((entries.map fun e => (e.1, cursorValue e.2)).lookup "id") =
      some rawId) : ∃ n, intOf rawId = .ok n := by
  rw [lookup_map] at h
  apply intOf_eq_ok
  cases hid : entries.lookup "id" with
  | none => simp [hid, CursorValue.digits?] at h
  | some j =>
    cases j with
    | str s =>
      simp only [hid, Option.map_some, cursorValue, CursorValue.digits?] at h
      split at h
      · next hdigits =>
        obtain rfl := Option.some.inj h
        exact hread.digits s hid hdigits
      · cases h
    | float x => cases x <;> simp [hid, cursorValue, CursorValue.digits?] at h
    | _ => simp [hid, cursorValue, CursorValue.digits?] at h

lemma readOrderCursor_of_readable (h : held lib text = some (.dict entries))
    (hread : Readable lib entries) : ∃ c, readOrderCursor (codec lib) (some text) = .ok c := by
  simp only [readOrderCursor, Option.getD_some, if_neg (ne_of_held h), decodeCursor_of_held h]
  simp only [bind, Except.bind, pure, Except.pure]
  split
  · next rawTime rawId ht hid =>
    obtain ⟨n, hn⟩ := exists_intOf hread hid
    split
    · exact ⟨_, rfl⟩
    · exact ⟨_, by rw [hn]⟩
  · exact ⟨_, rfl⟩

lemma rank?_of_readable (hread : Readable lib entries) : ∃ rank,
    CursorValue.rank? ((entries.map fun e => (e.1, cursorValue e.2)).lookup "r") = .ok rank := by
  have hscalar := hread.rank_scalar
  rw [lookup_map]
  rw [JsonObject.get] at hscalar
  cases hr : entries.lookup "r" with
  | none => exact ⟨_, rfl⟩
  | some j =>
    rw [hr, Option.getD_some] at hscalar
    rw [Option.map_some]
    cases hj : cursorValue j with
    | nested => exact absurd hj hscalar
    | _ => exact ⟨_, rfl⟩

lemma readDeadlineCursor_of_readable (h : held lib text = some (.dict entries))
    (hread : Readable lib entries) : ∃ c, readDeadlineCursor (codec lib) (some text) = .ok c := by
  obtain ⟨rank, hrank⟩ := rank?_of_readable hread
  simp only [readDeadlineCursor, Option.getD_some, if_neg (ne_of_held h), decodeCursor_of_held h]
  simp only [bind, Except.bind, pure, Except.pure, hrank]
  split
  · exact ⟨_, rfl⟩
  · split
    · next rank' rawId hr hid =>
      obtain ⟨n, hn⟩ := exists_intOf hread hid
      simp only [hn]
      split
      · split
        · exact ⟨_, rfl⟩
        · split <;> exact ⟨_, rfl⟩
      · exact ⟨_, rfl⟩
    · exact ⟨_, rfl⟩

lemma heldId_of_held (h : held lib text = some (.dict entries)) :
    heldId lib text = .ok (entries.get "id") := by
  have hdecode : decodeCursor lib text = .dict entries := by rw [decodeCursor, h, Option.getD_some]
  simp only [heldId, hdecode]

lemma cursorId_of_readable (h : held lib text = some (.dict entries))
    (hread : Readable lib entries) : ∃ c, cursorId lib (some text) = .ok c := by
  simp only [cursorId, Option.getD_some, if_neg (ne_of_held h), heldId_of_held h, bind, Except.bind,
    pure, Except.pure]
  split
  · exact ⟨_, rfl⟩
  · split
    · next hdigits =>
      rw [Bool.and_eq_true] at hdigits
      obtain ⟨n, hn⟩ := intOf_eq_ok (hread.stripped hdigits.1 hdigits.2)
      exact ⟨_, by rw [hn]⟩
    · exact ⟨_, rfl⟩

/-- No id, and a text that is no number, are not found. -/
lemma before_of_readable (h : held lib text = some (.dict entries)) (hread : Readable lib entries) :
    before lib (some text) = .error .notFound ∨ ∃ n, before lib (some text) = .ok (some n) := by
  have hscalar := hread.id_scalar
  have hfinite := hread.id_finite
  simp only [before, Option.getD_some, if_neg (ne_of_held h), heldId_of_held h, bind, Except.bind,
    pure, Except.pure]
  cases hid : entries.get "id" with
  | null => exact .inl rfl
  | bool b => exact .inr ⟨_, rfl⟩
  | int n => exact .inr ⟨_, rfl⟩
  | float x =>
    cases x with
    | finite q => exact .inr ⟨_, rfl⟩
    | infinite negative => exact absurd hid (hfinite negative)
    | nan => exact .inl rfl
  | str s =>
    simp only [Json.toInt]
    cases Text.readInt s with
    | none => exact .inl rfl
    | some n => exact .inr ⟨n, rfl⟩
  | list js => exact absurd (by rw [hid]; rfl) hscalar
  | dict es => exact absurd (by rw [hid]; rfl) hscalar

/-- What is damaged is an object with nothing in it. -/
lemma readers_of_damaged (hne : text ≠ "") (h : held lib text = none) :
    readOrderCursor (codec lib) (some text) = .ok none ∧
    readDeadlineCursor (codec lib) (some text) = .ok none ∧
    cursorId lib (some text) = .ok none ∧ before lib (some text) = .error .notFound := by
  have hdecode : decodeCursor lib text = .dict [] := by rw [decodeCursor, h, Option.getD_none]
  have hcodec : CrossPilot.decodeCursor (codec lib) text = .ok [] := by
    simp only [CrossPilot.decodeCursor, codec, hdecode, List.map_nil]
  have hid : heldId lib text = .ok .null := by
    simp only [heldId, hdecode]
    rfl
  simp [readOrderCursor, readDeadlineCursor, cursorId, before, hne, hcodec, hid, bind, Except.bind,
    pure, Except.pure]

end readers

end CrossPilot.Paging
