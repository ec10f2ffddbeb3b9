import CrossPilot.Lib.DecimalText
import Mathlib.Algebra.BigOperators.Group.List.Basic

/-!
# Reading PDF files

What a reader of PDF finds in the bytes of a file: the objects that the cross-reference table at its
end leads to (`Indexed`), and the literal strings of a content stream, with their escapes undone
(`literals`).
-/

namespace Pdf

/-! ### Bytes and characters -/

/-- The byte of a character in Latin-1. What has none there becomes a question mark. -/
def byte (c : Char) : UInt8 := if c.toNat < 256 then c.toNat.toUInt8 else 63

/-- `str.encode("latin-1", errors="replace")`. -/
def encode (s : String) : List UInt8 := s.toList.map byte

def char (b : UInt8) : Char := Char.ofNat b.toNat

/-- `bytes.decode("latin-1")`. -/
def decode (bytes : List UInt8) : String := String.ofList (bytes.map char)

variable {c : Char} {b : UInt8}

lemma toNat_char (b : UInt8) : (char b).toNat = b.toNat := by
  have hb := b.toNat_lt
  have hvalid : b.toNat.isValidChar := .inl (by omega)
  rw [char, Char.ofNat, dif_pos hvalid]
  show (BitVec.ofNatLT b.toNat _).toNat = b.toNat
  simp

@[simp] lemma byte_char (b : UInt8) : byte (char b) = b := by
  have hb := b.toNat_lt
  rw [byte, toNat_char, if_pos (by omega)]
  exact UInt8.ofNat_toNat

lemma char_byte (h : c.toNat < 256) : char (byte c) = c := by
  rw [byte, if_pos h, char, Nat.toUInt8, UInt8.toNat_ofNat', Nat.mod_eq_of_lt (by simpa using h),
    Char.ofNat_toNat]

lemma char_eq_iff {a b : UInt8} : char a = char b ↔ a = b := by
  constructor
  · intro h
    rw [← byte_char a, h, byte_char]
  · rintro rfl
    rfl

/-- Only a question mark may have come of several characters. -/
lemma eq_char_of_byte (h : byte c = b) (hb : b ≠ 63) : c = char b := by
  by_cases hc : c.toNat < 256
  · rw [← h, char_byte hc]
  · rw [byte, if_neg hc] at h
    exact absurd h.symm hb

@[simp] lemma encode_append (s t : String) : encode (s ++ t) = encode s ++ encode t := by
  simp [encode]

lemma length_encode (s : String) : (encode s).length = s.toList.length := by
  simp [encode]

@[simp] lemma toList_decode (bytes : List UInt8) : (decode bytes).toList = bytes.map char := by
  simp [decode]

@[simp] lemma encode_decode (bytes : List UInt8) : encode (decode bytes) = bytes := by
  simp [encode, decode, Function.comp_def]

/-! ### The cross-reference table -/

/-- The piece stands at this offset. -/
def At (file : List UInt8) (offset : ℕ) (piece : List UInt8) : Prop := piece <+: file.drop offset

/-- The entry of an object, in a table whose entries begin at `first`. An entry has twenty bytes. -/
def entry (file : List UInt8) (first number : ℕ) : List UInt8 :=
  (file.drop (first + 20 * number)).take 20

/-- An object as it stands in a file. -/
def object (number : ℕ) (body : List UInt8) : List UInt8 :=
  encode s!"{number} 0 obj\n" ++ body ++ encode "\nendobj\n"

/-- The first lines of a table of so many entries. -/
def tableHead (count : ℕ) : List UInt8 := encode s!"xref\n0 {count}\n"

/-- What ends a file whose table stands at this offset. -/
def trailer (count root table : ℕ) : List UInt8 :=
  encode s!"trailer\n<< /Size {count} /Root {root} 0 R >>\nstartxref\n{table}\n%%EOF\n"

/-- A file of the objects `1`, `2`, … with these bodies. The table at its offset has one entry for each
of them, after that of the free object `0`, and the file ends where its trailer does. -/
structure Indexed (file : List UInt8) (bodies : List (List UInt8)) (root table : ℕ) : Prop where
  header : encode "%PDF-1.4\n" <+: file
  head : At file table (tableHead (bodies.length + 1))
  free : entry file (table + (tableHead (bodies.length + 1)).length) 0 =
    encode "0000000000 65535 f \n"
  entries : ∀ i body, bodies[i]? = some body → ∃ offset,
    entry file (table + (tableHead (bodies.length + 1)).length) (i + 1) =
      encode s!"{Decimals.padded 10 offset} 00000 n \n" ∧
    At file offset (object (i + 1) body)
  ends : file.drop (table + (tableHead (bodies.length + 1)).length + 20 * (bodies.length + 1)) =
    trailer (bodies.length + 1) root table

section pieces

variable {α : Type} {pieces : List (List α)} {piece : List α} {i w : ℕ}

/-- A piece stands behind those before it. -/
lemma prefix_drop_of_getElem? (back : List α) (h : pieces[i]? = some piece) :
    piece <+: (pieces.flatten ++ back).drop (pieces.take i).flatten.length := by
  obtain ⟨hi, rfl⟩ := List.getElem?_eq_some_iff.mp h
  have hsplit : pieces.flatten =
      (pieces.take i).flatten ++ (pieces[i] ++ (pieces.drop (i + 1)).flatten) := by
    rw [← List.flatten_cons, ← List.flatten_append, ← List.drop_eq_getElem_cons hi,
      List.take_append_drop]
  rw [hsplit, List.append_assoc, List.drop_left, List.append_assoc]
  exact List.prefix_append _ _

lemma length_flatten_of_forall (h : ∀ piece ∈ pieces, piece.length = w) :
    pieces.flatten.length = w * pieces.length := by
  have hmap : pieces.map List.length = List.replicate pieces.length w := by
    rw [List.map_congr_left h, List.map_const']
  rw [List.length_flatten, hmap, List.sum_replicate, smul_eq_mul, mul_comm]

/-- Pieces of one length are found by their index. -/
lemma take_drop_of_getElem? (back : List α) (h : ∀ piece ∈ pieces, piece.length = w)
    (hi : pieces[i]? = some piece) : ((pieces.flatten ++ back).drop (w * i)).take w = piece := by
  obtain ⟨hlt, -⟩ := List.getElem?_eq_some_iff.mp hi
  have hlength : (pieces.take i).flatten.length = w * i := by
    rw [length_flatten_of_forall fun p hp => h p (List.mem_of_mem_take hp), List.length_take,
      min_eq_left hlt.le]
  have hbegins := prefix_drop_of_getElem? back hi
  rw [hlength] at hbegins
  have hw : piece.length = w := h piece (List.mem_of_getElem? hi)
  rw [← hw]
  exact (List.prefix_iff_eq_take.mp (hw ▸ hbegins)).symm

end pieces

/-! ### Documents -/

/-- The root of the tree of pages, with these pages below it. -/
def pageTree (kids : List ℕ) : List UInt8 :=
  let references := " ".intercalate (kids.map fun kid => s!"{kid} 0 R")
  encode s!"<< /Type /Pages /Count {kids.length} /Kids [{references}] >>"

/-- The beginning of a page, which is that of no other dictionary. -/
def pageMark : List UInt8 := encode "<< /Type /Page /"

/-- A page of a tree, whose content is in another object. -/
def page (parent : ℕ) (mediaBox : String) (content : ℕ) (resources : String) : List UInt8 :=
  encode s!"<< /Type /Page /Parent {parent} 0 R /MediaBox [{mediaBox}] " ++
    encode s!"/Contents {content} 0 R /Resources {resources} >>"

def streamMark : List UInt8 := encode "<< /Length "

/-- A stream, with its length. -/
def streamObject (stream : List UInt8) : List UInt8 :=
  encode s!"<< /Length {stream.length} >>\nstream\n" ++ stream ++ encode "\nendstream"

/-! ### Literal strings -/

/-- What the bytes before say of the next byte of a literal. -/
inductive Lead
  | none
  | backslash
  | octal (count value : ℕ)
  | carriageReturn

/-- A literal that is not closed yet, with the parentheses that are open in it. -/
structure Literal where
  depth : ℕ
  lead : Lead
  text : List UInt8

/-- What a letter stands for behind a backslash. Other bytes stand for themselves. -/
def escape (b : UInt8) : UInt8 :=
  if b = 110 then 10 else if b = 114 then 13 else if b = 116 then 9
  else if b = 98 then 8 else if b = 102 then 12 else b

namespace Literal

/-- A byte that no backslash belongs to. The result on the left is the text of a closed literal. All
ends of lines are read as line feeds. -/
def unescaped (l : Literal) (b : UInt8) : List UInt8 ⊕ Literal :=
  if b = 92 then .inr ⟨l.depth, .backslash, l.text⟩
  else if b = 13 then .inr ⟨l.depth, .carriageReturn, l.text ++ [10]⟩
  else if b = 40 then .inr ⟨l.depth + 1, .none, l.text ++ [b]⟩
  else if b = 41 then
    if l.depth = 0 then .inl l.text else .inr ⟨l.depth - 1, .none, l.text ++ [b]⟩
  else .inr ⟨l.depth, .none, l.text ++ [b]⟩

/-- A byte right behind a backslash. The end of a line is left out there. -/
def escaped (l : Literal) (b : UInt8) : Literal :=
  if 48 ≤ b ∧ b ≤ 55 then ⟨l.depth, .octal 1 (b.toNat - 48), l.text⟩
  else if b = 10 then ⟨l.depth, .none, l.text⟩
  else if b = 13 then ⟨l.depth, .carriageReturn, l.text⟩
  else ⟨l.depth, .none, l.text ++ [escape b]⟩

def next (l : Literal) (b : UInt8) : List UInt8 ⊕ Literal :=
  match l.lead with
  | .none => l.unescaped b
  | .backslash => .inr (l.escaped b)
  | .octal count value =>
    if 48 ≤ b ∧ b ≤ 55 ∧ count < 3 then
      .inr ⟨l.depth, .octal (count + 1) (value * 8 + (b.toNat - 48)), l.text⟩
    else unescaped ⟨l.depth, .none, l.text ++ [value.toUInt8]⟩ b
  | .carriageReturn =>
    if b = 10 then .inr ⟨l.depth, .none, l.text⟩ else unescaped ⟨l.depth, .none, l.text⟩ b

end Literal

inductive Mode
  | outside
  | comment
  | inside (literal : Literal)

/-- The literals that were closed so far. -/
structure Scan where
  found : List (List UInt8)
  mode : Mode

def Scan.next (s : Scan) (b : UInt8) : Scan :=
  match s.mode with
  | .outside =>
    if b = 37 then ⟨s.found, .comment⟩
    else if b = 40 then ⟨s.found, .inside ⟨0, .none, []⟩⟩
    else s
  | .comment => if b = 10 ∨ b = 13 then ⟨s.found, .outside⟩ else s
  | .inside l =>
    match l.next b with
    | .inl text => ⟨s.found ++ [text], .outside⟩
    | .inr l => ⟨s.found, .inside l⟩

/-- The literal strings of a content stream. -/
def literals (stream : List UInt8) : List (List UInt8) :=
  (stream.foldl Scan.next ⟨[], .outside⟩).found

/-- The bytes begin and end outside of literals, and these are the literals among them. -/
def Reads (bytes : List UInt8) (texts : List (List UInt8)) : Prop :=
  ∀ found, bytes.foldl Scan.next ⟨found, .outside⟩ = ⟨found ++ texts, .outside⟩

/-- Within a literal the bytes add these to its text. -/
def Adds (bytes text : List UInt8) : Prop :=
  ∀ found before, bytes.foldl Scan.next ⟨found, .inside ⟨0, .none, before⟩⟩ =
    ⟨found, .inside ⟨0, .none, before ++ text⟩⟩

variable {bytes bytes' text text' stream : List UInt8} {texts texts' : List (List UInt8)}

lemma Reads.literals_eq (h : Reads stream texts) : literals stream = texts := by
  rw [literals, h]
  rfl

lemma Reads.nil : Reads [] [] := by
  intro found
  simp

lemma Reads.append (h : Reads bytes texts) (h' : Reads bytes' texts') :
    Reads (bytes ++ bytes') (texts ++ texts') := by
  intro found
  rw [List.foldl_append, h, h', List.append_assoc]

/-- Bytes that open neither a comment nor a literal. -/
lemma Reads.plain (h : ∀ b ∈ bytes, b ≠ 37 ∧ b ≠ 40) : Reads bytes [] := by
  intro found
  induction bytes with
  | nil => simp
  | cons b bytes ih =>
    have hb := h b (by simp)
    have hnext : Scan.next ⟨found, .outside⟩ b = ⟨found, .outside⟩ := by
      simp [Scan.next, hb.1, hb.2]
    rw [List.foldl_cons, hnext, ih fun b' hb' => h b' (by simp [hb'])]

lemma Adds.nil : Adds [] [] := by
  intro found before
  simp

lemma Adds.append (h : Adds bytes text) (h' : Adds bytes' text') :
    Adds (bytes ++ bytes') (text ++ text') := by
  intro found before
  rw [List.foldl_append, h, h', List.append_assoc]

lemma Adds.reads (h : Adds bytes text) : Reads (40 :: bytes ++ [41]) [text] := by
  intro found
  have hopen : Scan.next ⟨found, .outside⟩ 40 = ⟨found, .inside ⟨0, .none, []⟩⟩ := rfl
  have hclose : Scan.next ⟨found, .inside ⟨0, .none, text⟩⟩ 41 = ⟨found ++ [text], .outside⟩ := rfl
  rw [List.cons_append, List.foldl_cons, hopen, List.foldl_append, h, List.nil_append,
    List.foldl_cons, hclose, List.foldl_nil]

/-- A byte that is no parenthesis, backslash or carriage return stands for itself. -/
lemma Adds.plain (hslash : b ≠ 92) (hopen : b ≠ 40) (hclose : b ≠ 41) (hreturn : b ≠ 13) :
    Adds [b] [b] := by
  intro found before
  simp [Scan.next, Literal.next, Literal.unescaped, hslash, hopen, hclose, hreturn]

/-- A parenthesis or a backslash stands for itself behind a backslash. -/
lemma Adds.special (h : b = 92 ∨ b = 40 ∨ b = 41) : Adds [92, b] [b] := by
  intro found before
  rcases h with rfl | rfl | rfl <;> rfl

end Pdf
