import CrossPilot.Documents.LabelText

/-!
# The bytes of label files

A label file leads to its objects through its table, its pages are listed in their order, and the
stream of each page shows the lines of the page (`buildLabelPdf_consistent`).
-/

namespace CrossPilot.LabelPdf

open Pdf

/-! ### Assembling -/

section assemble

variable {bodies : List (List UInt8)} {objects : Dict ℕ (List UInt8)}

def header : List UInt8 := encode "%PDF-1.4\n"

/-- The chunks of a file, without its table. -/
def chunks (bodies : List (List UInt8)) : List (List UInt8) :=
  header :: bodies.mapIdx fun i body => object (i + 1) body

/-- Where an object begins. -/
def start (bodies : List (List UInt8)) (i : ℕ) : ℕ := ((chunks bodies).take (i + 1)).flatten.length

/-- The state of the loop after its first steps. -/
def after (bodies : List (List UInt8)) (n : ℕ) : Assembly :=
  ⟨(chunks bodies).take (n + 1), 0 :: (List.range n).map (start bodies), start bodies n⟩

def tableEntry (offset : ℕ) : List UInt8 := encode s!"{Decimals.padded 10 offset} 00000 n \n"

def tableEntries (bodies : List (List UInt8)) : List (List UInt8) :=
  encode "0000000000 65535 f \n" :: (List.range bodies.length).map fun i => tableEntry (start bodies i)

/-- The file of these objects. -/
def fileOf (bodies : List (List UInt8)) : List UInt8 :=
  (chunks bodies).flatten ++ (tableHead (bodies.length + 1) ++ ((tableEntries bodies).flatten ++
    trailer (bodies.length + 1) 1 (start bodies bodies.length)))

lemma getElem?_chunks {i : ℕ} {body : List UInt8} (h : bodies[i]? = some body) :
    (chunks bodies)[i + 1]? = some (object (i + 1) body) := by
  rw [chunks, List.getElem?_cons_succ, List.getElem?_mapIdx, h]
  rfl

lemma trailer_one (count table : ℕ) : trailer count 1 table =
    encode s!"trailer\n<< /Size {count} /Root 1 0 R >>\nstartxref\n{table}\n%%EOF\n" := by
  have hroot : encode " /Root 1 0 R >>\nstartxref\n" =
      encode " /Root " ++ (encode (toString 1) ++ encode " 0 R >>\nstartxref\n") := by decide
  rw [trailer]
  simp only [encode_append, toString, hroot, List.append_assoc]

/-- One step of the loop writes the next object. -/
lemma write_after {n : ℕ} {body : List UInt8} (h : bodies[n]? = some body)
    (hget : objects.get (1 + n) = some body) :
    write objects (after bodies n) (1 + n) = .ok (after bodies (n + 1)) := by
  have hchunk := getElem?_chunks h
  have htake : (chunks bodies).take (n + 2) =
      (chunks bodies).take (n + 1) ++ [object (n + 1) body] := by
    rw [List.take_add_one, hchunk, Option.toList_some]
  have hstart : start bodies (n + 1) = start bodies n + (object (n + 1) body).length := by
    rw [start, htake, List.flatten_append, List.length_append, List.flatten_singleton]
    rfl
  simp only [write, hget]
  rw [after, after, htake, hstart, List.range_succ, List.map_append, Nat.add_comm 1 n]
  rfl

lemma foldlM_write (hget : ∀ i < bodies.length, objects.get (1 + i) = bodies[i]?) {n : ℕ}
    (hn : n ≤ bodies.length) : (List.range' 1 n).foldlM (write objects) (after bodies 0) =
      .ok (after bodies n) := by
  induction n with
  | zero => rfl
  | succ n ih =>
    have hlt : n < bodies.length := hn
    have hbody : bodies[n]? = some bodies[n] := List.getElem?_eq_getElem hlt
    rw [List.range'_1_concat, List.foldlM_append, ih hlt.le]
    show [1 + n].foldlM (write objects) (after bodies n) = _
    rw [List.foldlM_cons, write_after hbody ((hget n hlt).trans hbody)]
    rfl

/-- The objects `1`, `2`, … of a dictionary without others are assembled. -/
lemma assemble_eq (hne : bodies ≠ []) (hget : ∀ i, objects.get (1 + i) = bodies[i]?)
    (hzero : objects.get 0 = none) : assemble objects = .ok (fileOf bodies) := by
  have hpos : 0 < bodies.length := List.length_pos_iff.mpr hne
  have hmax : (objects.entries.map Prod.fst).max? = some bodies.length := by
    rw [List.max?_eq_some_iff]
    constructor
    · have hlast := hget (bodies.length - 1)
      rw [List.getElem?_eq_getElem (by omega), Nat.add_sub_cancel' hpos] at hlast
      exact List.mem_map.mpr ⟨_, Dict.mem_entries_iff.mpr hlast, rfl⟩
    · intro number hnumber
      obtain ⟨⟨k, body⟩, hentry, rfl⟩ := List.mem_map.mp hnumber
      rw [Dict.mem_entries_iff] at hentry
      cases k with
      | zero => simp [hzero] at hentry
      | succ k =>
        rw [Nat.add_comm, hget] at hentry
        exact (List.getElem?_eq_some_iff.mp hentry).1
  have hfold := @foldlM_write bodies objects (fun i _ => hget i) bodies.length le_rfl
  have hall : (chunks bodies).take (bodies.length + 1) = chunks bodies :=
    List.take_of_length_le (by simp [chunks])
  rw [assemble, hmax]
  show (do
    let a ← (List.range' 1 bodies.length).foldlM (write objects) (after bodies 0)
    _) = _
  rw [hfold]
  show Except.ok _ = _
  congr 1
  rw [after, hall, fileOf, tableEntries, tableHead, trailer_one]
  simp only [List.tail_cons, List.map_map, List.cons_append, List.nil_append, String.join_cons,
    encode_append, List.flatten_cons, List.append_assoc]
  congr 3
  simp [encode, List.flatMap_def, List.map_flatten, tableEntry, Function.comp_def]

end assemble
/-! ### The table -/

section table

variable {bodies : List (List UInt8)}

lemma start_length (bodies : List (List UInt8)) :
    start bodies bodies.length = (chunks bodies).flatten.length := by
  rw [start, List.take_of_length_le (by simp [chunks])]

lemma start_le {i : ℕ} (hi : i < bodies.length) :
    start bodies i < start bodies bodies.length := by
  obtain ⟨body, hbody⟩ : ∃ body, bodies[i]? = some body := ⟨_, List.getElem?_eq_getElem hi⟩
  have hbegins := (prefix_drop_of_getElem? [] (getElem?_chunks hbody)).length_le
  rw [List.append_nil, List.length_drop, ← start_length, ← start] at hbegins
  have hpos : 0 < (object (i + 1) body).length := by
    simp [object, encode]
  omega

lemma length_tableEntry {offset : ℕ} (h : offset < 10 ^ 10) : (tableEntry offset).length = 20 := by
  rw [tableEntry]
  simp only [encode_append, List.length_append, length_encode, toString]
  rw [Decimals.Decimal.length_padded (by decide) h]
  rfl

/-- A file of less than ten thousand million bytes leads to its objects. -/
lemma indexed_fileOf (h : (fileOf bodies).length < 10 ^ 10) :
    Indexed (fileOf bodies) bodies 1 (start bodies bodies.length) := by
  have hhead : (fileOf bodies).drop (start bodies bodies.length) =
      tableHead (bodies.length + 1) ++ ((tableEntries bodies).flatten ++
        trailer (bodies.length + 1) 1 (start bodies bodies.length)) := by
    rw [fileOf, start_length, List.drop_left]
  have hfirst : (fileOf bodies).drop
      (start bodies bodies.length + (tableHead (bodies.length + 1)).length) =
        (tableEntries bodies).flatten ++
          trailer (bodies.length + 1) 1 (start bodies bodies.length) := by
    rw [← List.drop_drop, hhead, List.drop_left]
  have hsmall (i : ℕ) (hi : i < bodies.length) : start bodies i < 10 ^ 10 := by
    have hlt := start_le hi
    have hle : (chunks bodies).flatten.length ≤ (fileOf bodies).length := by simp [fileOf]
    rw [← start_length] at hle
    omega
  have htwenty : ∀ e ∈ tableEntries bodies, e.length = 20 := by
    intro e he
    rcases List.mem_cons.mp he with rfl | he
    · decide
    · obtain ⟨i, hi, rfl⟩ := List.mem_map.mp he
      exact length_tableEntry (hsmall i (List.mem_range.mp hi))
  have hentry (number : ℕ) (e : List UInt8) (he : (tableEntries bodies)[number]? = some e) :
      entry (fileOf bodies) (start bodies bodies.length + (tableHead (bodies.length + 1)).length)
        number = e := by
    rw [entry, ← List.drop_drop, hfirst, take_drop_of_getElem? _ htwenty he]
  refine ⟨?_, ?_, hentry 0 _ rfl, ?_, ?_⟩
  · rw [fileOf, chunks, List.flatten_cons, List.append_assoc]
    exact List.prefix_append _ _
  · rw [At, hhead]
    exact List.prefix_append _ _
  · intro i body hbody
    have hi : i < bodies.length := (List.getElem?_eq_some_iff.mp hbody).1
    refine ⟨start bodies i, hentry (i + 1) _ ?_, ?_⟩
    · rw [tableEntries, List.getElem?_cons_succ, List.getElem?_map, List.getElem?_range hi]
      rfl
    · exact prefix_drop_of_getElem? _ (getElem?_chunks hbody)
  · have hlength : (tableEntries bodies).flatten.length = 20 * (bodies.length + 1) := by
      rw [length_flatten_of_forall htwenty, tableEntries, List.length_cons, List.length_map,
        List.length_range]
    rw [← List.drop_drop, hfirst, ← hlength, List.drop_left]

end table

/-! ### The objects -/

section objects

variable {R : Type} (float : Floats R) (width height : R)

def pageIdsOf (n : ℕ) : List ℕ := List.range' 4 n 2

/-- The objects of pages, of which the first has this number. -/
def pageBodies (id : ℕ) : List (List String) → List (List UInt8)
  | [] => []
  | lines :: pages =>
    pageObject float width height (id + 1) :: contentObject (stream float lines height) ::
      pageBodies (id + 2) pages

def bodiesOf (pages : List (List String)) : List (List UInt8) :=
  catalog :: pagesObject (pageIdsOf pages.length) :: font :: pageBodies float width height 4 pages

lemma map_range_eq (n : ℕ) : (List.range n).map (fun index => 4 + index * 2) = pageIdsOf n := by
  rw [pageIdsOf]
  apply List.ext_getElem
  · simp
  · intro i hi hi'
    rw [List.getElem_map, List.getElem_range, List.getElem_range', mul_comm]

lemma getElem?_pageBodies (id : ℕ) (pages : List (List String)) (k : ℕ) :
    (pageBodies float width height id pages)[2 * k]? =
        pages[k]?.map (fun _ => pageObject float width height (id + 2 * k + 1)) ∧
      (pageBodies float width height id pages)[2 * k + 1]? =
        pages[k]?.map fun lines => contentObject (stream float lines height) := by
  induction pages generalizing id k with
  | nil => simp [pageBodies]
  | cons lines pages ih =>
    cases k with
    | zero => simp [pageBodies]
    | succ k =>
      obtain ⟨hpage, hcontent⟩ := ih (id + 2) k
      have hnumber : id + 2 + 2 * k + 1 = id + 2 * (k + 1) + 1 := by ring
      rw [hnumber] at hpage
      exact ⟨hpage, hcontent⟩

/-- The loop over the pages leaves the objects before them, and adds theirs. -/
lemma get_foldl_addPage (id : ℕ) (pages : List (List String)) (objects : Dict ℕ (List UInt8))
    (hnone : ∀ m, objects.get (id + m) = none) (n : ℕ) :
    (((List.range' id pages.length 2).zip (((List.range' id pages.length 2).map (· + 1)).zip
      pages)).foldl (addPage float width height) objects).get n =
        if n < id then objects.get n else (pageBodies float width height id pages)[n - id]? := by
  induction pages generalizing id objects with
  | nil =>
    split_ifs with hn
    · rfl
    · have h := hnone (n - id)
      rw [Nat.add_sub_cancel' (by omega)] at h
      simpa [pageBodies] using h
  | cons lines pages ih =>
    rw [List.length_cons, List.range'_succ, List.map_cons, List.zip_cons_cons, List.zip_cons_cons,
      List.foldl_cons, ih (id + 2)]
    · obtain hn | rfl | rfl | hn : n < id ∨ n = id ∨ n = id + 1 ∨ id + 2 ≤ n := by omega
      · rw [if_pos hn, if_pos (by omega), addPage, Dict.get_set, Dict.get_set,
          if_neg (by simp; omega), if_neg (by simp; omega)]
      · simp [addPage, pageBodies]
      · simp [addPage, pageBodies]
      · obtain ⟨m, rfl⟩ := Nat.exists_eq_add_of_le hn
        have hm : id + 2 + m - id = m + 2 := by omega
        rw [if_neg (by omega), if_neg (by omega), Nat.add_sub_cancel_left, hm]
        rfl
    · intro m
      rw [addPage, Dict.get_set, Dict.get_set, if_neg (by simp; omega), if_neg (by simp; omega),
        add_assoc]
      exact hnone (2 + m)

/-- The dictionary before the loop over the pages. -/
lemma get_base (kids : List UInt8) (n : ℕ) :
    (((Dict.empty.set 1 catalog).set 2 kids).set fontId font).get n =
      if n = 0 then none else [catalog, kids, font][n - 1]? := by
  obtain rfl | rfl | rfl | rfl | hn : n = 0 ∨ n = 1 ∨ n = 2 ∨ n = 3 ∨ 4 ≤ n := by omega
  · rfl
  · rfl
  · rfl
  · rfl
  · obtain ⟨m, rfl⟩ := Nat.exists_eq_add_of_le hn
    have hthree : fontId ≠ 4 + m := by rw [fontId]; omega
    rw [Dict.get_set, if_neg hthree, Dict.get_set, if_neg (by omega), Dict.get_set,
      if_neg (by omega), if_neg (by omega), List.getElem?_eq_none (by simp)]
    rfl

lemma document_eq (pages : List (List String)) :
    document float pages width height = .ok (fileOf (bodiesOf float width height pages)) := by
  have hnone (m : ℕ) : (((Dict.empty.set 1 catalog).set 2
      (pagesObject (List.range' 4 pages.length 2))).set fontId font).get (4 + m) = none := by
    rw [get_base, if_neg (by omega), List.getElem?_eq_none (by simp)]
  rw [document]
  simp only [map_range_eq]
  apply assemble_eq
  · simp [bodiesOf]
  · intro i
    rw [pageIdsOf, get_foldl_addPage float width height 4 pages _ hnone]
    split_ifs with hi
    · obtain rfl | rfl | rfl : i = 0 ∨ i = 1 ∨ i = 2 := by omega
      · rfl
      · rfl
      · rfl
    · obtain ⟨m, rfl⟩ := Nat.exists_eq_add_of_le (show 3 ≤ i by omega)
      rw [bodiesOf, Nat.add_comm 3 m, ← add_assoc, Nat.add_comm 1 m]
      rfl
  · rw [pageIdsOf, get_foldl_addPage float width height 4 pages _ hnone]
    rfl

end objects

/-! ### What a reader finds -/

/-- A file with the table at this offset and these objects, whose pages and their contents have these
numbers. Among the objects the pages are those with these numbers, and likewise the streams. -/
structure Consistent (pages : List (List String)) (file : List UInt8) (bodies : List (List UInt8))
    (table : ℕ) (pageIds contentIds : List ℕ) : Prop where
  indexed : Indexed file bodies 1 table
  catalog : bodies[0]? = some (encode "<< /Type /Catalog /Pages 2 0 R >>")
  tree : bodies[1]? = some (pageTree pageIds)
  pageIds_iff : ∀ n body, bodies[n]? = some body → (pageMark <+: body ↔ n + 1 ∈ pageIds)
  contentIds_iff : ∀ n body, bodies[n]? = some body → (streamMark <+: body ↔ n + 1 ∈ contentIds)
  length_pageIds : pageIds.length = pages.length
  length_contentIds : contentIds.length = pages.length
  own : contentIds.Nodup
  pages_show : ∀ (k : ℕ) (lines : List String), pages[k]? = some lines →
    ∃ pageId contentId mediaBox resources stream, pageIds[k]? = some pageId ∧
      contentIds[k]? = some contentId ∧
      bodies[pageId - 1]? = some (page 2 mediaBox contentId resources) ∧
      bodies[contentId - 1]? = some (streamObject stream) ∧
      (literals stream).map decode = lines.map shown

section reader

variable {R : Type} (float : Floats R) (width height : R) {pages : List (List String)}

lemma getElem?_bodiesOf (pages : List (List String)) (k : ℕ) :
    (bodiesOf float width height pages)[2 * k + 3]? =
        pages[k]?.map (fun _ => pageObject float width height (2 * k + 5)) ∧
      (bodiesOf float width height pages)[2 * k + 4]? =
        pages[k]?.map fun lines => contentObject (stream float lines height) := by
  obtain ⟨hpage, hcontent⟩ := getElem?_pageBodies float width height 4 pages k
  have hnumber : 4 + 2 * k + 1 = 2 * k + 5 := by ring
  rw [hnumber] at hpage
  exact ⟨hpage, hcontent⟩

/-- There are the first three objects, and two for each page. -/
lemma bodiesOf_cases {n : ℕ} {body : List UInt8}
    (h : (bodiesOf float width height pages)[n]? = some body) :
    (n = 0 ∧ body = LabelPdf.catalog) ∨ (n = 1 ∧ body = pagesObject (pageIdsOf pages.length)) ∨
    (n = 2 ∧ body = font) ∨
    (∃ k < pages.length, n = 2 * k + 3 ∧ body = pageObject float width height (2 * k + 5)) ∨
    ∃ k < pages.length, n = 2 * k + 4 ∧ ∃ stream, body = contentObject stream := by
  obtain rfl | rfl | rfl | hn : n = 0 ∨ n = 1 ∨ n = 2 ∨ 3 ≤ n := by omega
  · exact .inl ⟨rfl, (Option.some.inj h).symm⟩
  · exact .inr (.inl ⟨rfl, (Option.some.inj h).symm⟩)
  · exact .inr (.inr (.inl ⟨rfl, (Option.some.inj h).symm⟩))
  · obtain ⟨k, rfl | rfl⟩ : ∃ k, n = 2 * k + 3 ∨ n = 2 * k + 4 := ⟨(n - 3) / 2, by omega⟩
    · rw [(getElem?_bodiesOf float width height pages k).1, Option.map_eq_some_iff] at h
      obtain ⟨lines, hlines, rfl⟩ := h
      exact .inr (.inr (.inr (.inl ⟨k, (List.getElem?_eq_some_iff.mp hlines).1, rfl, rfl⟩)))
    · rw [(getElem?_bodiesOf float width height pages k).2, Option.map_eq_some_iff] at h
      obtain ⟨lines, hlines, rfl⟩ := h
      exact .inr (.inr (.inr (.inr ⟨k, (List.getElem?_eq_some_iff.mp hlines).1, rfl, _, rfl⟩)))

lemma mem_pageIdsOf {n count : ℕ} : n ∈ pageIdsOf count ↔ ∃ k < count, n = 2 * k + 4 := by
  simp [pageIdsOf, List.mem_range', Nat.add_comm]

lemma pagesObject_eq (kids : List ℕ) : pagesObject kids = pageTree kids := rfl

lemma pageObject_eq (content : ℕ) : pageObject float width height content =
    page 2 s!"0 0 {float.fixed width} {float.fixed height}" content "<< /Font << /F1 3 0 R >> >>" := by
  have hfront : encode "<< /Type /Page /Parent 2 0 R /MediaBox [0 0 " =
      encode "<< /Type /Page /Parent " ++ (encode (toString 2) ++
        (encode " 0 R /MediaBox [" ++ encode "0 0 ")) := by decide
  have hback : encode " 0 R /Resources << /Font << /F1 " ++
      (encode (toString 3) ++ encode " 0 R >> >> >>") =
        encode " 0 R /Resources " ++ (encode "<< /Font << /F1 3 0 R >> >>" ++ encode " >>") := by
    decide
  simp only [toString] at hfront hback
  simp only [pageObject, page, fontId, encode_append, toString, List.append_assoc, hfront, hback]

lemma contentObject_eq (stream : List UInt8) : contentObject stream = streamObject stream := rfl

/-- A text begins with only one of two marks, of which neither begins the other. -/
lemma not_begins {mark other body : List UInt8} (h : other <+: body)
    (hle : mark.length ≤ other.length) (hne : ¬ mark <+: other) : ¬ mark <+: body := by
  intro hmark
  exact hne (List.prefix_of_prefix_length_le hmark h hle)

lemma pageMark_begins (content : ℕ) : pageMark <+: pageObject float width height content := by
  have hfront : encode "<< /Type /Page /Parent 2 0 R /MediaBox [0 0 " =
      pageMark ++ encode "Parent 2 0 R /MediaBox [0 0 " := by decide
  simp only [pageObject, encode_append, toString, List.append_assoc, hfront]
  exact List.prefix_append _ _

lemma streamMark_begins (stream : List UInt8) : streamMark <+: contentObject stream := by
  simp only [contentObject, encode_append, toString, List.append_assoc]
  exact List.prefix_append _ _

lemma tree_begins (kids : List ℕ) : encode "<< /Type /Pages /Count " <+: pagesObject kids := by
  simp only [pagesObject, encode_append, toString, List.append_assoc]
  exact List.prefix_append _ _

lemma pageMark_iff {n : ℕ} {body : List UInt8}
    (h : (bodiesOf float width height pages)[n]? = some body) :
    pageMark <+: body ↔ n + 1 ∈ pageIdsOf pages.length := by
  rw [mem_pageIdsOf]
  obtain ⟨rfl, rfl⟩ | ⟨rfl, rfl⟩ | ⟨rfl, rfl⟩ | ⟨k, hk, rfl, rfl⟩ | ⟨k, hk, rfl, stream, rfl⟩ :=
    bodiesOf_cases float width height h
  · exact iff_of_false (by decide) (by omega)
  · exact iff_of_false (not_begins (tree_begins _) (by decide) (by decide)) (by omega)
  · exact iff_of_false (by decide) (by omega)
  · exact iff_of_true (pageMark_begins float width height _) ⟨k, hk, rfl⟩
  · refine iff_of_false ?_ (by omega)
    intro hmark
    have hboth := List.prefix_or_prefix_of_prefix hmark (streamMark_begins stream)
    exact absurd hboth (by decide)

lemma streamMark_iff {n : ℕ} {body : List UInt8}
    (h : (bodiesOf float width height pages)[n]? = some body) :
    streamMark <+: body ↔ n + 1 ∈ (pageIdsOf pages.length).map (· + 1) := by
  have hmem : n + 1 ∈ (pageIdsOf pages.length).map (· + 1) ↔ ∃ k < pages.length, n = 2 * k + 4 := by
    simp [mem_pageIdsOf]
  rw [hmem]
  obtain ⟨rfl, rfl⟩ | ⟨rfl, rfl⟩ | ⟨rfl, rfl⟩ | ⟨k, hk, rfl, rfl⟩ | ⟨k, hk, rfl, stream, rfl⟩ :=
    bodiesOf_cases float width height h
  · exact iff_of_false (by decide) (by omega)
  · exact iff_of_false (not_begins (tree_begins _) (by decide) (by decide)) (by omega)
  · exact iff_of_false (by decide) (by omega)
  · exact iff_of_false (not_begins (pageMark_begins float width height _) (by decide) (by decide))
      (by omega)
  · exact iff_of_true (streamMark_begins stream) ⟨k, hk, rfl⟩

lemma consistent_fileOf (hreturn : ∀ lines ∈ pages, ∀ line ∈ lines, '\r' ∉ line.toList)
    (hlength : (fileOf (bodiesOf float width height pages)).length < 10 ^ 10) :
    Consistent pages (fileOf (bodiesOf float width height pages))
      (bodiesOf float width height pages)
      (start (bodiesOf float width height pages) (bodiesOf float width height pages).length)
      (pageIdsOf pages.length) ((pageIdsOf pages.length).map (· + 1)) where
  indexed := indexed_fileOf hlength
  catalog := rfl
  tree := rfl
  pageIds_iff _ _ := pageMark_iff float width height
  contentIds_iff _ _ := streamMark_iff float width height
  length_pageIds := List.length_range'
  length_contentIds := by rw [List.length_map, pageIdsOf, List.length_range']
  own := by
    rw [pageIdsOf]
    exact List.Nodup.map (add_left_injective 1) (List.nodup_range' 2)
  pages_show := by
    intro k lines hlines
    have hk : k < pages.length := (List.getElem?_eq_some_iff.mp hlines).1
    have hid : (pageIdsOf pages.length)[k]? = some (2 * k + 4) := by
      rw [pageIdsOf, List.getElem?_range' hk, Nat.add_comm]
    obtain ⟨hpage, hcontent⟩ := getElem?_bodiesOf float width height pages k
    refine ⟨2 * k + 4, 2 * k + 5, s!"0 0 {float.fixed width} {float.fixed height}",
      "<< /Font << /F1 3 0 R >> >>", stream float lines height, hid, ?_, ?_, ?_, ?_⟩
    · rw [List.getElem?_map, hid]
      rfl
    · rw [Nat.add_sub_assoc (by decide), hpage, hlines, ← pageObject_eq]
      rfl
    · rw [Nat.add_sub_assoc (by decide), hcontent, hlines]
      rfl
    · exact literals_stream float (hreturn lines (List.mem_of_getElem? hlines)) height

end reader

/-- For every list of pages there is a file, and what a reader finds in it are the lines of the pages,
as long as offsets have ten digits. -/
theorem buildLabelPdf_consistent {R : Type} (float : Floats R) {pages : List (List String)}
    {size : String} (hsize : size ∈ labelSizesMm.map Prod.fst) (hpages : pages ≠ [])
    (hreturn : ∀ lines ∈ pages, ∀ line ∈ lines, '\r' ∉ line.toList) :
    ∃ file, buildLabelPdf float pages size = .ok file ∧ (file.length < 10 ^ 10 →
      ∃ bodies table pageIds contentIds,
        Consistent pages file bodies table pageIds contentIds) := by
  obtain ⟨widthMm, heightMm, hlookup⟩ :
      ∃ widthMm heightMm, labelSizesMm.lookup size = some (widthMm, heightMm) := by
    obtain rfl | rfl : size = "A6" ∨ size = "100x150" := by simpa [labelSizesMm] using hsize
    · exact ⟨105, 148, rfl⟩
    · exact ⟨100, 150, rfl⟩
  have hbuild : buildLabelPdf float pages size =
      document float pages (float.mul (float.literal widthMm) (mmToPt float))
        (float.mul (float.literal heightMm) (mmToPt float)) := by
    rw [buildLabelPdf, hlookup]
    simp only [if_neg hpages]
  exact ⟨_, hbuild.trans (document_eq float _ _ pages), fun hlength =>
    ⟨_, _, _, _, consistent_fileOf float _ _ hreturn hlength⟩⟩

lemma isDigit_of_mem_padded {k n : ℕ} {c : Char} (hc : c ∈ (Decimals.padded k n).toList) :
    c.isDigit := by
  rw [Decimals.Decimal.toList_padded, List.mem_append] at hc
  rcases hc with hzero | hdigit
  · rw [List.eq_of_mem_replicate hzero]
    rfl
  · exact Nat.isDigit_of_mem_toDigits (by decide) (by decide) hdigit

/-- Exact numbers instead of floats. The texts of coordinates on short labels are the same. -/
def exact : Floats ℚ where
  literal := id
  mul := (· * ·)
  div := (· / ·)
  sub := (· - ·)
  fixed := Decimals.text 2
  plain := by
    intro x c hc
    have hdigit : c.isDigit = true → c.isAlphanum = true := fun h => by simp [Char.isAlphanum, h]
    simp only [Decimals.text, String.toList_append, List.mem_append] at hc
    rcases hc with ((hsign | hwhole) | hpoint) | hplaces
    · split_ifs at hsign
      · exact .inr (.inl (by simpa using hsign))
      · exact absurd hsign (by simp)
    · rw [Nat.toString_eq_repr, Nat.toList_repr] at hwhole
      exact .inl (hdigit (Nat.isDigit_of_mem_toDigits (by decide) (by decide) hwhole))
    · exact .inr (.inr (by simpa using hpoint))
    · exact .inl (hdigit (isDigit_of_mem_padded hplaces))

theorem buildLabelPdf_consistent_parentheses :
    ∃ file, buildLabelPdf exact [["(50% \\)", "面单"], []] "A6" = .ok file ∧
      ∃ bodies table pageIds contentIds,
        Consistent [["(50% \\)", "面单"], []] file bodies table pageIds contentIds := by
  obtain ⟨file, hfile, hconsistent⟩ :=
    @buildLabelPdf_consistent ℚ exact [["(50% \\)", "面单"], []] "A6" (by decide) (by decide)
      (by decide)
  refine ⟨file, hfile, hconsistent ?_⟩
  have hlength : (buildLabelPdf exact [["(50% \\)", "面单"], []] "A6").map List.length = .ok 874 := by
    decide +kernel
  rw [hfile] at hlength
  rw [Except.ok.inj hlength]
  decide

end CrossPilot.LabelPdf
