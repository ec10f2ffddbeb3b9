import CrossPilot.Documents.LabelPdf

/-!
# The text of labels

The literal strings of a content stream are the lines of the page (`literals_stream`).
-/

open Pdf

namespace Text

/-- Replacing one character goes over the characters one by one. -/
lemma toList_replace_singleton (c : Char) (new s : String) :
    (replace (String.ofList [c]) new s).toList =
      s.toList.flatMap fun d => if d = c then new.toList else [d] := by
  rw [replace, String.toList_ofList, String.toList_ofList]
  induction s.toList with
  | nil => rfl
  | cons d cs ih =>
    have hbegins : [c] <+: d :: cs ↔ d = c := by
      rw [List.singleton_prefix_cons_iff, eq_comm]
    rw [replaceFrom, List.flatMap_cons, ← ih]
    by_cases hd : d = c
    · rw [if_pos (hbegins.mpr hd), if_pos hd]
      rfl
    · rw [if_neg fun h => hd (hbegins.mp h), if_neg hd]
      rfl

end Text

namespace CrossPilot.LabelPdf

variable {R : Type} (float : Floats R)

/-! ### Lines -/

/-- How a byte of a line is written. -/
def escaped (b : UInt8) : List UInt8 := if b = 92 ∨ b = 40 ∨ b = 41 then [92, b] else [b]

lemma encode_pdfText (line : String) : encode (pdfText line) = (encode line).flatMap escaped := by
  have hslash : "\\" = String.ofList ['\\'] := rfl
  have hopen : "(" = String.ofList ['('] := rfl
  have hclose : ")" = String.ofList [')'] := rfl
  have hchar (b : UInt8) : ((if char b = '\\' then "\\\\".toList else [char b]).flatMap fun c =>
      ((if c = '(' then "\\(".toList else [c]).flatMap fun d =>
        (if d = ')' then "\\)".toList else [d]).map byte)) = escaped b := by
    by_cases h : b = 92 ∨ b = 40 ∨ b = 41
    · rcases h with rfl | rfl | rfl <;> rfl
    · rw [escaped, if_neg h]
      obtain ⟨h₁, h₂, h₃⟩ : b ≠ 92 ∧ b ≠ 40 ∧ b ≠ 41 := by simpa using h
      have hne₁ : char b ≠ '\\' := fun h => h₁ (char_eq_iff.mp h)
      have hne₂ : char b ≠ '(' := fun h => h₂ (char_eq_iff.mp h)
      have hne₃ : char b ≠ ')' := fun h => h₃ (char_eq_iff.mp h)
      simp [hne₁, hne₂, hne₃]
  rw [encode, pdfText, hclose, Text.toList_replace_singleton, hopen, Text.toList_replace_singleton,
    hslash, Text.toList_replace_singleton, toList_decode, List.flatMap_map, List.flatMap_assoc,
    List.flatMap_assoc, List.map_flatMap]
  apply List.flatMap_congr
  intro b _
  rw [← hchar b, List.map_flatMap]
  apply List.flatMap_congr
  intro c _
  rw [List.map_flatMap]

lemma adds_pdfText {line : String} (h : '\r' ∉ line.toList) :
    Adds (encode (pdfText line)) (encode line) := by
  rw [encode_pdfText]
  have hreturn : ∀ b ∈ encode line, b ≠ 13 := by
    intro b hb
    obtain ⟨c, hc, rfl⟩ := List.mem_map.mp hb
    intro heq
    apply h
    rwa [eq_char_of_byte heq (by decide)] at hc
  generalize encode line = bytes at hreturn ⊢
  induction bytes with
  | nil => exact Adds.nil
  | cons b bytes ih =>
    rw [List.flatMap_cons, ← List.singleton_append]
    refine Adds.append ?_ (ih fun b' hb' => hreturn b' (by simp [hb']))
    rw [escaped]
    split_ifs with hb
    · exact Adds.special hb
    · obtain ⟨hslash, hopen, hclose⟩ : b ≠ 92 ∧ b ≠ 40 ∧ b ≠ 41 := by simpa using hb
      exact Adds.plain hslash hopen hclose (hreturn b (by simp))

/-! ### Streams -/

lemma reads_fixed (x : R) : Reads (encode (float.fixed x)) [] := by
  apply Reads.plain
  intro b hb
  obtain ⟨c, hc, rfl⟩ := List.mem_map.mp hb
  have hplain := float.plain x c hc
  constructor
  · intro heq
    rw [eq_char_of_byte heq (by decide)] at hplain
    exact absurd hplain (by decide)
  · intro heq
    rw [eq_char_of_byte heq (by decide)] at hplain
    exact absurd hplain (by decide)

/-- The command for a line shows the line. -/
lemma reads_showLine {line : String} (h : '\r' ∉ line.toList) (y : R) :
    Reads (encode s!"1 0 0 1 14 {float.fixed y} Tm ({pdfText line}) Tj") [encode line] := by
  have hfront : Reads (encode "1 0 0 1 14 ") [] := Reads.plain (by decide +kernel)
  have hmiddle : Reads (encode " Tm ") [] := Reads.plain (by decide +kernel)
  have hback : Reads (encode " Tj") [] := Reads.plain (by decide +kernel)
  have hline := (adds_pdfText h).reads
  have hall := hfront.append ((reads_fixed float y).append (hmiddle.append (hline.append hback)))
  have hopen : encode " Tm (" = encode " Tm " ++ [40] := by decide
  have hclose : encode ") Tj" = [41] ++ encode " Tj" := by decide
  simpa [toString, hopen, hclose] using hall

lemma exists_showLines (lines : List String) (h : ∀ line ∈ lines, '\r' ∉ line.toList)
    (commands : List String) (y : R) : ∃ shown,
      (lines.foldl (showLine float) (commands, y)).1 = commands ++ shown ∧
      List.Forall₂ (fun command line => Reads (encode command) [encode line]) shown lines := by
  induction lines generalizing commands y with
  | nil => exact ⟨[], by simp, .nil⟩
  | cons line lines ih =>
    obtain ⟨shown, hshown, hall⟩ := ih (fun l hl => h l (by simp [hl]))
      (commands ++ [s!"1 0 0 1 14 {float.fixed y} Tm ({pdfText line}) Tj"])
      (float.sub y (float.literal 16))
    refine ⟨_ :: shown, ?_, .cons (reads_showLine float (h line (by simp)) y) hall⟩
    rw [List.foldl_cons, showLine, hshown, List.append_assoc]
    rfl

/-- Commands that stand on lines of their own are read one by one. -/
lemma reads_intercalate {commands : List String} {texts : List (List (List UInt8))}
    (h : List.Forall₂ (fun command text => Reads (encode command) text) commands texts) :
    Reads (encode ("\n".intercalate commands)) texts.flatten := by
  have hline : Reads (encode "\n") [] := Reads.plain (by decide +kernel)
  induction h with
  | nil => exact Reads.nil
  | cons hhead htail ih =>
    rename_i command text commands texts
    cases htail with
    | nil => simpa using hhead
    | cons hnext hrest =>
      rw [String.intercalate_cons_cons, encode_append, encode_append, List.flatten_cons]
      have hboth := (hhead.append hline).append ih
      rwa [List.append_nil] at hboth

/-- Characters that are not in Latin-1 are shown as question marks. -/
def shown (line : String) : String :=
  String.ofList (line.toList.map fun c => if c.toNat < 256 then c else '?')

lemma decode_encode (line : String) : decode (encode line) = shown line := by
  rw [decode, encode, shown, List.map_map]
  congr 1
  apply List.map_congr_left
  intro c _
  rw [Function.comp_apply]
  split_ifs with hc
  · exact char_byte hc
  · rw [byte, if_neg hc]
    rfl

lemma literals_stream {lines : List String} (h : ∀ line ∈ lines, '\r' ∉ line.toList) (height : R) :
    (literals (stream float lines height)).map decode = lines.map shown := by
  obtain ⟨commands, hcommands, hall⟩ := exists_showLines float lines h ["BT", "/F1 11 Tf"]
    (float.sub height (float.literal 28))
  have hbegin : Reads (encode "BT") [] := Reads.plain (by decide +kernel)
  have hfont : Reads (encode "/F1 11 Tf") [] := Reads.plain (by decide +kernel)
  have hend : Reads (encode "ET") [] := Reads.plain (by decide +kernel)
  have hlines : List.Forall₂ (fun command text => Reads (encode command) text) commands
      (lines.map fun line => [encode line]) := by
    rw [List.forall₂_map_right_iff]
    exact hall
  have hrows : List.Forall₂ (fun command text => Reads (encode command) text)
      (["BT", "/F1 11 Tf"] ++ commands ++ ["ET"])
      ([] :: [] :: (lines.map fun line => [encode line]) ++ [[]]) :=
    .cons hbegin (.cons hfont (List.rel_append hlines (.cons hend .nil)))
  have hreads := reads_intercalate hrows
  rw [← hcommands] at hreads
  rw [stream, hreads.literals_eq]
  have hflat : ([] :: [] :: (lines.map fun line => [encode line]) ++ [[]]).flatten =
      lines.map encode := by
    simpa [← List.flatMap_def] using List.map_eq_flatMap.symm
  rw [hflat, List.map_map]
  apply List.map_congr_left
  intro line _
  exact decode_encode line

end CrossPilot.LabelPdf
