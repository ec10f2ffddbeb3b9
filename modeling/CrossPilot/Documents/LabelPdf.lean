import CrossPilot.Lib.Dict
import CrossPilot.Lib.Pdf

/-!
# Label files

`build_label_pdf` of `services/label_pdf.py`. Coordinates are floats there. Here they are of any type,
and of their texts only the characters are known.
-/

namespace CrossPilot.LabelPdf

open Pdf

/-- The arithmetic of floats that the module uses. -/
structure Floats (R : Type) where
  literal : ℚ → R
  mul : R → R → R
  div : R → R → R
  sub : R → R → R
  /-- `f"{x:.2f}"`. -/
  fixed : R → String
  plain : ∀ x, ∀ c ∈ (fixed x).toList, c.isAlphanum ∨ c = '-' ∨ c = '.'

inductive Exn
  | valueError (message : String)
  | keyError (key : ℕ)
  deriving DecidableEq

def labelSizesMm : List (String × ℚ × ℚ) := [("A6", 105, 148), ("100x150", 100, 150)]

/-! ### Streams -/

def pdfText (value : String) : String :=
  let safe := decode (encode value)
  Text.replace ")" "\\)" (Text.replace "(" "\\(" (Text.replace "\\" "\\\\" safe))

section floats

variable {R : Type} (float : Floats R)

def mmToPt : R := float.div (float.literal 72) (float.literal (254 / 10))

/-- The command that shows a line, with the height of the next one. -/
def showLine (state : List String × R) (line : String) : List String × R :=
  (state.1 ++ [s!"1 0 0 1 14 {float.fixed state.2} Tm ({pdfText line}) Tj"],
    float.sub state.2 (float.literal 16))

def stream (lines : List String) (height : R) : List UInt8 :=
  let commands := ["BT", "/F1 11 Tf"]
  let y := float.sub height (float.literal 28)
  encode ("\n".intercalate ((lines.foldl (showLine float) (commands, y)).1 ++ ["ET"]))

/-! ### Objects

Texts that the source encodes in ASCII have the same bytes in Latin-1. -/

def catalog : List UInt8 := encode "<< /Type /Catalog /Pages 2 0 R >>"

def font : List UInt8 := encode "<< /Type /Font /Subtype /Type1 /BaseFont /Helvetica >>"

def pagesObject (pageIds : List ℕ) : List UInt8 :=
  let kids := " ".intercalate (pageIds.map fun pageId => s!"{pageId} 0 R")
  encode s!"<< /Type /Pages /Count {pageIds.length} /Kids [{kids}] >>"

def fontId : ℕ := 3

def pageObject (width height : R) (contentId : ℕ) : List UInt8 :=
  encode (s!"<< /Type /Page /Parent 2 0 R /MediaBox [0 0 {float.fixed width} {float.fixed height}] " ++
    s!"/Contents {contentId} 0 R /Resources << /Font << /F1 {fontId} 0 R >> >> >>")

def contentObject (stream : List UInt8) : List UInt8 :=
  encode s!"<< /Length {stream.length} >>\nstream\n" ++ stream ++ encode "\nendstream"

/-- One page of the loop over pages. -/
def addPage (width height : R) (objects : Dict ℕ (List UInt8)) (page : ℕ × ℕ × List String) :
    Dict ℕ (List UInt8) :=
  (objects.set page.1 (pageObject float width height page.2.1)).set page.2.1
    (contentObject (stream float page.2.2 height))

/-! ### The file -/

structure Assembly where
  chunks : List (List UInt8)
  offsets : List ℕ
  cursor : ℕ

def write (objects : Dict ℕ (List UInt8)) (a : Assembly) (number : ℕ) : Except Exn Assembly :=
  match objects.get number with
  | none => .error (.keyError number)
  | some body =>
    let piece := encode s!"{number} 0 obj\n" ++ body ++ encode "\nendobj\n"
    .ok ⟨a.chunks ++ [piece], a.offsets ++ [a.cursor], a.cursor + piece.length⟩

def assemble (objects : Dict ℕ (List UInt8)) : Except Exn (List UInt8) :=
  match (objects.entries.map Prod.fst).max? with
  | none => .error (.valueError "max() iterable argument is empty")
  | some highest => do
    let header := encode "%PDF-1.4\n"
    let a ← (List.range' 1 highest).foldlM (write objects) ⟨[header], [0], header.length⟩
    let xrefAt := a.cursor
    let count := highest + 1
    let xref := [s!"xref\n0 {count}\n", "0000000000 65535 f \n"] ++
      a.offsets.tail.map fun offset => s!"{Decimals.padded 10 offset} 00000 n \n"
    let trailer := s!"trailer\n<< /Size {count} /Root 1 0 R >>\nstartxref\n{xrefAt}\n%%EOF\n"
    pure (a.chunks.flatten ++ encode (String.join xref) ++ encode trailer)

def document (pages : List (List String)) (width height : R) : Except Exn (List UInt8) :=
  let pageIds := (List.range pages.length).map fun index => 4 + index * 2
  let contentIds := pageIds.map fun pageId => pageId + 1
  let objects := ((Dict.empty.set 1 catalog).set 2 (pagesObject pageIds)).set fontId font
  assemble ((pageIds.zip (contentIds.zip pages)).foldl (addPage float width height) objects)

def buildLabelPdf (pages : List (List String)) (size : String) : Except Exn (List UInt8) :=
  match labelSizesMm.lookup size with
  | none => .error (.valueError s!"未知面单尺寸 {size}")
  | some (widthMm, heightMm) =>
    if pages = [] then .error (.valueError "没有可打印的面单")
    else
      document float pages (float.mul (float.literal widthMm) (mmToPt float))
        (float.mul (float.literal heightMm) (mmToPt float))

end floats

end CrossPilot.LabelPdf
