import CrossPilot.Lib.Text

/-!
# A fragment of XML

Documents without a document type, comments, processing instructions and prefixes, whose texts have
no references but those to `&`, `<` and `>`. `parse` reads such a document into a tree, as a parser
for all of XML 1.0 would: characters that XML has no place for are refused, the ends of lines are
made uniform, and the names of elements are qualified by their default namespace. `Conforming` says
of any parser that it does the same with what `parse` reads, and refuses the same characters.

A document is written as a list of tags, each with the text that follows it (`render`), and `scan`
gets the list back.
-/

namespace Markup

/-- An element. The text is what stands before the first child. -/
inductive Element
  | node (tag : String) (attrib : List (String × String)) (text : String) (children : List Element)

namespace Element

def tag : Element → String
  | node tag _ _ _ => tag

def attrib : Element → List (String × String)
  | node _ attrib _ _ => attrib

def text : Element → String
  | node _ _ text _ => text

def children : Element → List Element
  | node _ _ _ children => children

/-- The value of an attribute. -/
def get (e : Element) (name : String) : Option String :=
  (e.attrib.find? fun a => a.1 = name).map (·.2)

mutual

/-- The element and all below it, in the order of the document. -/
def iter : Element → List Element
  | node tag attrib text children => node tag attrib text children :: iterAll children

def iterAll : List Element → List Element
  | [] => []
  | e :: rest => e.iter ++ iterAll rest

end

end Element

/-! ### Characters -/

/-- What may stand in a document. Characters are no surrogates here. -/
def legal (c : Char) : Bool :=
  c == '\t' || c == '\n' || c == '\r' || (0x20 ≤ c.toNat && c.toNat ≠ 0xFFFE && c.toNat ≠ 0xFFFF)

/-- All ends of lines become line feeds. -/
def lineEnds : List Char → List Char
  | '\r' :: '\n' :: cs => '\n' :: lineEnds cs
  | '\r' :: cs => '\n' :: lineEnds cs
  | c :: cs => c :: lineEnds cs
  | [] => []

/-- `xml.sax.saxutils.escape`. -/
def escape (cs : List Char) : List Char :=
  cs.flatMap fun c =>
    if c = '&' then "&amp;".toList else if c = '<' then "&lt;".toList
    else if c = '>' then "&gt;".toList else [c]

/-- A text without its references. -/
def unescape : List Char → Option (List Char)
  | '&' :: 'a' :: 'm' :: 'p' :: ';' :: cs => ('&' :: ·) <$> unescape cs
  | '&' :: 'l' :: 't' :: ';' :: cs => ('<' :: ·) <$> unescape cs
  | '&' :: 'g' :: 't' :: ';' :: cs => ('>' :: ·) <$> unescape cs
  | '&' :: _ => none
  | '>' :: _ => none
  | c :: cs => (c :: ·) <$> unescape cs
  | [] => some []

section characters

variable {a b cs : List Char} {c : Char}

lemma lineEnds_cons (hc : c ≠ '\r') (cs : List Char) : lineEnds (c :: cs) = c :: lineEnds cs := by
  rw [lineEnds]
  · rintro cs' rfl
    exact absurd rfl hc
  · rintro rfl
    exact absurd rfl hc

/-- No end of a line goes across another character. -/
lemma lineEnds_append_cons (hc : c ≠ '\r') (hc' : c ≠ '\n') (a b : List Char) :
    lineEnds (a ++ c :: b) = lineEnds a ++ c :: lineEnds b := by
  induction a using lineEnds.induct with
  | case1 cs ih => simpa [lineEnds] using ih
  | case2 cs hnot ih =>
    cases cs with
    | nil =>
      have hnext : lineEnds ('\r' :: c :: b) = '\n' :: lineEnds (c :: b) := by
        rw [lineEnds]
        rintro cs' h
        exact absurd (List.cons.inj h).1 hc'
      simpa [lineEnds, lineEnds_cons hc] using hnext
    | cons d ds =>
      have hd : d ≠ '\n' := by
        rintro rfl
        exact hnot ds rfl
      have hleft : lineEnds ('\r' :: d :: ds) = '\n' :: lineEnds (d :: ds) := by
        rw [lineEnds]
        rintro cs' h
        exact absurd (List.cons.inj h).1 hd
      have hright : lineEnds ('\r' :: d :: (ds ++ c :: b)) = '\n' :: lineEnds (d :: (ds ++ c :: b)) := by
        rw [lineEnds]
        rintro cs' h
        exact absurd (List.cons.inj h).1 hd
      rw [hleft, List.cons_append, List.cons_append, hright, ← List.cons_append, ih, List.cons_append]
  | case3 d cs h h' ih =>
    have hd : d ≠ '\r' := by
      rintro rfl
      exact h' rfl
    rw [List.cons_append, lineEnds_cons hd, lineEnds_cons hd, ih, List.cons_append]
  | case4 => simp [lineEnds_cons hc, lineEnds]

lemma notMem_lineEnds (cs : List Char) : '\r' ∉ lineEnds cs := by
  induction cs using lineEnds.induct with
  | case1 cs ih => simpa [lineEnds] using ih
  | case2 cs hnot ih =>
    rw [lineEnds]
    · simpa using ih
    · exact hnot
  | case3 d cs h h' ih =>
    have hd : d ≠ '\r' := by
      rintro rfl
      exact h' rfl
    rw [lineEnds_cons hd]
    simpa [hd.symm] using ih
  | case4 => simp [lineEnds]

lemma lineEnds_of_notMem (h : '\r' ∉ cs) : lineEnds cs = cs := by
  induction cs with
  | nil => rfl
  | cons c cs ih =>
    simp only [List.mem_cons, not_or] at h
    rw [lineEnds_cons (Ne.symm h.1), ih h.2]

lemma lineEnds_eq_self_iff : lineEnds cs = cs ↔ '\r' ∉ cs :=
  ⟨fun h => h ▸ notMem_lineEnds cs, lineEnds_of_notMem⟩

@[simp] lemma lineEnds_lineEnds (cs : List Char) : lineEnds (lineEnds cs) = lineEnds cs :=
  lineEnds_of_notMem (notMem_lineEnds cs)

@[simp] lemma unescape_escape (cs : List Char) : unescape (escape cs) = some cs := by
  induction cs with
  | nil => rfl
  | cons c cs ih =>
    have hcons : escape (c :: cs) = (if c = '&' then "&amp;".toList else if c = '<' then "&lt;".toList
        else if c = '>' then "&gt;".toList else [c]) ++ escape cs := rfl
    rw [hcons]
    by_cases hamp : c = '&'
    · subst hamp
      simp [unescape, ih]
    by_cases hlt : c = '<'
    · subst hlt
      simp [unescape, ih]
    by_cases hgt : c = '>'
    · subst hgt
      simp [unescape, ih]
    · rw [if_neg hamp, if_neg hlt, if_neg hgt, List.singleton_append, unescape]
      · rw [ih]
        rfl
      all_goals simp_all

/-- An escaped text opens no tag. -/
lemma notMem_escape (cs : List Char) : '<' ∉ escape cs := by
  intro h
  obtain ⟨c, -, hc⟩ := List.mem_flatMap.mp h
  split_ifs at hc with hamp hlt hgt
  · revert hc
    decide
  · revert hc
    decide
  · revert hc
    decide
  · exact hlt (List.mem_singleton.mp hc).symm

lemma escape_cons (c : Char) (cs : List Char) : escape (c :: cs) =
    (if c = '&' then "&amp;".toList else if c = '<' then "&lt;".toList
      else if c = '>' then "&gt;".toList else [c]) ++ escape cs := rfl

lemma lineEnds_append_of_forall (h : ∀ c ∈ a, c ≠ '\r') (b : List Char) :
    lineEnds (a ++ b) = a ++ lineEnds b := by
  induction a with
  | nil => rfl
  | cons c cs ih =>
    rw [List.cons_append, lineEnds_cons (h c (by simp)), ih fun d hd => h d (by simp [hd]),
      List.cons_append]

/-- Escaping does not touch the ends of lines. -/
lemma lineEnds_escape (cs : List Char) : lineEnds (escape cs) = escape (lineEnds cs) := by
  induction cs using lineEnds.induct with
  | case1 cs ih => simpa [escape_cons, lineEnds] using ih
  | case2 cs hnot ih =>
    have hright : lineEnds ('\r' :: cs) = '\n' :: lineEnds cs := by
      rw [lineEnds]
      exact hnot
    have hleft : lineEnds ('\r' :: escape cs) = '\n' :: lineEnds (escape cs) := by
      rw [lineEnds]
      intro cs' h
      cases cs with
      | nil => cases h
      | cons d ds =>
        have hd : d ≠ '\n' := by
          rintro rfl
          exact hnot ds rfl
        rw [escape_cons] at h
        split_ifs at h <;> simp_all
    rw [hright, escape_cons, escape_cons]
    simp [hleft, ih]
  | case3 c cs h h' ih =>
    have hc : c ≠ '\r' := by
      rintro rfl
      exact h' rfl
    rw [lineEnds_cons hc, escape_cons, escape_cons, lineEnds_append_of_forall, ih]
    rintro d hd rfl
    split_ifs at hd
    · exact absurd hd (by decide)
    · exact absurd hd (by decide)
    · exact absurd hd (by decide)
    · exact hc (List.mem_singleton.mp hd).symm
  | case4 => rfl

/-- Neither escaping nor the ends of lines change what may stand in a document. -/
lemma legal_escape (cs : List Char) : (escape cs).all legal = cs.all legal := by
  induction cs with
  | nil => rfl
  | cons c cs ih =>
    rw [escape_cons, List.all_append, ih, List.all_cons]
    congr 1
    split_ifs with hamp hlt hgt
    · rw [hamp]
      rfl
    · rw [hlt]
      rfl
    · rw [hgt]
      rfl
    · simp

lemma legal_lineEnds (cs : List Char) : (lineEnds cs).all legal = cs.all legal := by
  induction cs using lineEnds.induct with
  | case1 cs ih =>
    simp only [lineEnds, List.all_cons, ih]
    rfl
  | case2 cs hnot ih =>
    rw [lineEnds]
    · rw [List.all_cons, List.all_cons, ih]
      rfl
    · exact hnot
  | case3 c cs h h' ih =>
    have hc : c ≠ '\r' := by
      rintro rfl
      exact h' rfl
    rw [lineEnds_cons hc, List.all_cons, List.all_cons, ih]
  | case4 => rfl

lemma mem_lineEnds (h : c ∈ lineEnds cs) : c ∈ cs ∨ c = '\n' ∧ '\r' ∈ cs := by
  induction cs using lineEnds.induct with
  | case1 cs ih =>
    rw [lineEnds, List.mem_cons] at h
    grind
  | case2 cs hnot ih =>
    rw [lineEnds] at h
    · grind
    · exact hnot
  | case3 d cs hcrlf hcr ih =>
    have hd : d ≠ '\r' := by
      rintro rfl
      exact hcr rfl
    rw [lineEnds_cons hd, List.mem_cons] at h
    grind
  | case4 => simp [lineEnds] at h

/-- A character of a text, but no end of a line. -/
def inLine (c : Char) : Prop := c ≠ '\r' ∧ c ≠ '\n'

lemma lineEnds_append (h : ∀ c ∈ b.head?, inLine c) (a : List Char) :
    lineEnds (a ++ b) = lineEnds a ++ lineEnds b := by
  cases b with
  | nil => simp [lineEnds]
  | cons c cs =>
    obtain ⟨hcr, hlf⟩ := h c rfl
    rw [lineEnds_append_cons hcr hlf, lineEnds_cons hcr]

lemma append_lineEnds (h : ∀ c ∈ a.getLast?, inLine c) (b : List Char) :
    lineEnds (a ++ b) = lineEnds a ++ lineEnds b := by
  rcases List.eq_nil_or_concat' a with rfl | ⟨cs, c, rfl⟩
  · simp [lineEnds]
  · obtain ⟨hcr, hlf⟩ := h c (by simp)
    simp [lineEnds_append_cons hcr hlf, lineEnds]

lemma head?_lineEnds (h : ∀ c ∈ a.head?, inLine c) : (lineEnds a).head? = a.head? := by
  cases a with
  | nil => rfl
  | cons c cs => simp [lineEnds_cons (h c rfl).1]

lemma getLast?_lineEnds (h : ∀ c ∈ a.getLast?, inLine c) : (lineEnds a).getLast? = a.getLast? := by
  rcases List.eq_nil_or_concat' a with rfl | ⟨cs, c, rfl⟩
  · rfl
  · obtain ⟨hcr, hlf⟩ := h c (by simp)
    simp [lineEnds_append_cons hcr hlf, lineEnds]

/-- Stripped, a text has the ends of lines that are left. -/
lemma stripChars_lineEnds (cs : List Char) :
    Text.stripChars (lineEnds cs) = lineEnds (Text.stripChars cs) := by
  have hspaces : ∀ {l : List Char}, (∀ c ∈ l, Text.isSpace c) → ∀ c ∈ lineEnds l, Text.isSpace c := by
    intro l hl c hc
    rcases mem_lineEnds hc with hmem | ⟨rfl, -⟩
    · exact hl c hmem
    · rfl
  have hinLine : ∀ {c : Char}, Text.isSpace c = false → inLine c := by
    rintro c hc
    constructor
    · rintro rfl
      cases hc
    · rintro rfl
      cases hc
  obtain ⟨a, b, ha, hb, hcs⟩ := Text.exists_stripChars cs
  by_cases hnil : Text.stripChars cs = []
  · rw [hnil, Text.stripChars_eq_nil_iff.mpr]
    · rfl
    · exact hspaces (Text.stripChars_eq_nil_iff.mp hnil)
  · have hfirst := Text.head?_stripChars cs
    have hlast := Text.getLast?_stripChars cs
    have hleft : lineEnds cs = lineEnds a ++ lineEnds (Text.stripChars cs) ++ lineEnds b := by
      conv_lhs => rw [hcs]
      rw [append_lineEnds, lineEnds_append fun c hc => hinLine (hfirst c hc)]
      rw [List.getLast?_append_of_ne_nil _ hnil]
      exact fun c hc => hinLine (hlast c hc)
    rw [hleft, Text.stripChars_append (hspaces ha) (hspaces hb), Text.stripChars_eq_self]
    · rw [head?_lineEnds fun c hc => hinLine (hfirst c hc)]
      exact hfirst
    · rw [getLast?_lineEnds fun c hc => hinLine (hlast c hc)]
      exact hlast

end characters

/-! ### Tags -/

/-- The text before the first tag, and the tags with the texts that follow them. -/
def scan : List Char → Option (List Char × List (List Char × List Char))
  | [] => some ([], [])
  | c :: cs =>
    match scan cs with
    | none => none
    | some (text, tags) =>
      if c = '<' then
        if '>' ∈ text then
          some ([], (text.takeWhile (· ≠ '>'), (text.dropWhile (· ≠ '>')).tail) :: tags)
        else none
      else some (c :: text, tags)

/-- The tags with the texts that follow them, one after the other. -/
def render (tags : List (List Char × List Char)) : List Char :=
  tags.flatMap fun t => '<' :: (t.1 ++ '>' :: t.2)

/-- The parts of a text between quotation marks. -/
def quotes : List Char → List (List Char)
  | [] => [[]]
  | c :: cs =>
    if c = '"' then [] :: quotes cs
    else
      match quotes cs with
      | part :: parts => (c :: part) :: parts
      | [] => [[c]]

def isLetter (c : Char) : Bool := ('a' ≤ c && c ≤ 'z') || ('A' ≤ c && c ≤ 'Z')

/-- A simple name. -/
def isName : List Char → Bool
  | c :: cs => isLetter c && cs.all fun c => isLetter c || ('0' ≤ c && c ≤ '9')
  | [] => false

/-- A value that stands for itself. -/
def isPlain (cs : List Char) : Bool :=
  cs.all fun c => c ≠ '<' && c ≠ '&' && c ≠ '\t' && c ≠ '\n' && c ≠ '}'

/-- The attributes of a tag, from its parts between quotation marks. -/
def attributes : List (List Char) → Option (List (String × String))
  | [] => some []
  | [last] => if last = [] then some [] else none
  | (' ' :: key) :: value :: rest =>
    if key.getLast? = some '=' ∧ isName key.dropLast ∧ isPlain value then
      ((String.ofList key.dropLast, String.ofList value) :: ·) <$> attributes rest
    else none
  | _ => none

/-- What a tag does. -/
inductive Tag
  | opening (name : String) (attrib : List (String × String))
  | closing (name : String)
  | empty (name : String) (attrib : List (String × String))

/-- A name and attributes, no two of one name. -/
def readNamed (cs : List Char) : Option (String × List (String × String)) :=
  let name := cs.takeWhile (· ≠ ' ')
  if isName name then
    match attributes (quotes (cs.dropWhile (· ≠ ' '))) with
    | some attrib =>
      if (attrib.map (·.1)).Nodup then some (String.ofList name, attrib) else none
    | none => none
  else none

def readTag (cs : List Char) : Option Tag :=
  match cs with
  | '/' :: name => if isName name then some (.closing (String.ofList name)) else none
  | _ =>
    if cs.getLast? = some '/' then
      (readNamed cs.dropLast).map fun named => .empty named.1 named.2
    else (readNamed cs).map fun named => .opening named.1 named.2

section tags

variable {t cs name value : List Char} {tags : List (List Char × List Char)}
  {attrs : List (List Char × List Char)}

lemma scan_append (h : '<' ∉ t) (cs : List Char) :
    scan (t ++ cs) = (scan cs).map fun r => (t ++ r.1, r.2) := by
  induction t with
  | nil => simp
  | cons c t ih =>
    simp only [List.mem_cons, not_or] at h
    rw [List.cons_append, scan, ih h.2]
    cases scan cs with
    | none => rfl
    | some r => simp [Ne.symm h.1]

/-- What is written as tags is scanned as these. -/
lemma scan_render (h : ∀ p ∈ tags, '<' ∉ p.1 ∧ '>' ∉ p.1 ∧ '<' ∉ p.2) :
    scan (render tags) = some ([], tags) := by
  induction tags with
  | nil => rfl
  | cons p tags ih =>
    obtain ⟨hopen, hclose, htext⟩ := h p (by simp)
    have hrest := ih fun q hq => h q (by simp [hq])
    have hcons : render (p :: tags) = '<' :: ((p.1 ++ '>' :: p.2) ++ render tags) := rfl
    have hnot : '<' ∉ p.1 ++ '>' :: p.2 := by simp [hopen, htext]
    rw [hcons, scan, scan_append hnot, hrest]
    have htake : (p.1 ++ '>' :: p.2).takeWhile (· ≠ '>') = p.1 := by
      rw [List.takeWhile_append_of_pos]
      · simp
      · intro c hc
        simpa using fun heq : c = '>' => hclose (heq ▸ hc)
    have hdrop : (p.1 ++ '>' :: p.2).dropWhile (· ≠ '>') = '>' :: p.2 := by
      rw [List.dropWhile_append_of_pos]
      · simp
      · intro c hc
        simpa using fun heq : c = '>' => hclose (heq ▸ hc)
    have hmem : '>' ∈ p.1 ++ '>' :: p.2 := by simp
    simp only [Option.map_some, List.append_nil, if_true]
    rw [if_pos hmem, htake, hdrop, List.tail_cons]

@[simp] lemma render_append (tags tags' : List (List Char × List Char)) :
    render (tags ++ tags') = render tags ++ render tags' :=
  List.flatMap_append

lemma quotes_append (h : '"' ∉ t) (cs : List Char) : quotes (t ++ '"' :: cs) = t :: quotes cs := by
  induction t with
  | nil => simp [quotes]
  | cons c t ih =>
    simp only [List.mem_cons, not_or] at h
    rw [List.cons_append, quotes, if_neg (Ne.symm h.1), ih h.2]

/-- The characters of a simple name. -/
lemma isName.mem (h : isName name = true) {c : Char} (hc : c ∈ name) :
    isLetter c = true ∨ '0' ≤ c ∧ c ≤ '9' := by
  cases name with
  | nil => cases hc
  | cons d ds =>
    simp only [isName, Bool.and_eq_true, List.all_eq_true, Bool.or_eq_true, decide_eq_true_eq] at h
    rcases List.mem_cons.mp hc with rfl | hmem
    · exact .inl h.1
    · exact h.2 c hmem

lemma isName.notMem (h : isName name = true) {c : Char}
    (hc : isLetter c = false ∧ ¬ ('0' ≤ c ∧ c ≤ '9')) : c ∉ name := by
  intro hmem
  rcases isName.mem h hmem with hletter | hdigit
  · rw [hc.1] at hletter
    cases hletter
  · exact hc.2 hdigit

/-- An attribute as it is written. -/
def quoted (a : List Char × List Char) : List Char := ' ' :: (a.1 ++ '=' :: '"' :: (a.2 ++ ['"']))

/-- A tag with its attributes. -/
def tagText (name : List Char) (attrs : List (List Char × List Char)) : List Char :=
  name ++ attrs.flatMap quoted

/-- The attributes can be read back. -/
def Writable (attrs : List (List Char × List Char)) : Prop :=
  (∀ a ∈ attrs, isName a.1 = true ∧ isPlain a.2 = true ∧ '"' ∉ a.2 ∧ '>' ∉ a.2) ∧
    (attrs.map (·.1)).Nodup

/-- Attributes as the tree has them. -/
def texts (attrs : List (List Char × List Char)) : List (String × String) :=
  attrs.map fun a => (String.ofList a.1, String.ofList a.2)

lemma attributes_quotes (h : Writable attrs) :
    attributes (quotes (attrs.flatMap quoted)) = some (texts attrs) := by
  obtain ⟨hall, -⟩ := h
  induction attrs with
  | nil => rfl
  | cons a rest ih =>
    obtain ⟨hname, hplain, hquote, -⟩ := hall a (by simp)
    have hwritten : (a :: rest).flatMap quoted =
        (' ' :: (a.1 ++ ['='])) ++ '"' :: (a.2 ++ '"' :: rest.flatMap quoted) := by
      simp [quoted]
    have hkey : '"' ∉ ' ' :: (a.1 ++ ['=']) := by
      have := isName.notMem hname (c := '"') (by decide)
      simp [this]
    rw [hwritten, quotes_append hkey, quotes_append hquote, attributes,
      ih fun b hb => hall b (by simp [hb])]
    simp [hname, hplain, texts]

lemma readNamed_tagText (hname : isName name = true) (h : Writable attrs) :
    readNamed (tagText name attrs) = some (String.ofList name, texts attrs) := by
  have hblank : ∀ c ∈ name, (decide (c ≠ ' ')) = true := by
    intro c hc
    simpa using fun heq : c = ' ' => isName.notMem hname (c := ' ') (by decide) (heq ▸ hc)
  have hhead : (attrs.flatMap quoted).takeWhile (· ≠ ' ') = [] ∧
      (attrs.flatMap quoted).dropWhile (· ≠ ' ') = attrs.flatMap quoted := by
    cases attrs with
    | nil => exact ⟨rfl, rfl⟩
    | cons a rest => simp [quoted]
  have hnodup : ((texts attrs).map (·.1)).Nodup := by
    have hmap : (texts attrs).map (·.1) = (attrs.map (·.1)).map String.ofList := by
      simp [texts, Function.comp_def]
    rw [hmap]
    exact h.2.map fun _ _ => String.ofList_injective
  rw [readNamed, tagText, List.takeWhile_append_of_pos hblank, List.dropWhile_append_of_pos hblank,
    hhead.1, hhead.2, List.append_nil]
  simp only [hname, if_true, attributes_quotes h, hnodup]

lemma ne_slash_of_isName {c : Char} (h : isLetter c = true ∨ '0' ≤ c ∧ c ≤ '9') : c ≠ '/' := by
  rintro rfl
  revert h
  decide

lemma getLast?_tagText (hname : isName name = true) (attrs : List (List Char × List Char)) :
    (tagText name attrs).getLast? ≠ some '/' := by
  cases hrev : attrs.reverse with
  | nil =>
    rw [List.reverse_eq_nil_iff.mp hrev, tagText, List.flatMap_nil, List.append_nil]
    intro hlast
    exact ne_slash_of_isName (isName.mem hname (List.mem_of_getLast? hlast)) rfl
  | cons a rest =>
    have hattrs : attrs = rest.reverse ++ [a] := by simpa using congrArg List.reverse hrev
    have hlast : (tagText name attrs).getLast? = some '"' := by
      have hquoted : quoted a = (' ' :: (a.1 ++ '=' :: '"' :: a.2)) ++ ['"'] := by simp [quoted]
      rw [hattrs, tagText, List.flatMap_append, List.flatMap_singleton, hquoted,
        ← List.append_assoc, ← List.append_assoc, List.getLast?_concat]
    rw [hlast]
    decide

lemma readTag_opening (hname : isName name = true) (h : Writable attrs) :
    readTag (tagText name attrs) = some (.opening (String.ofList name) (texts attrs)) := by
  have hlast := getLast?_tagText hname attrs
  have hnamed := readNamed_tagText hname h
  cases name with
  | nil => cases hname
  | cons c cs =>
    have hc : c ≠ '/' := ne_slash_of_isName (isName.mem hname (by simp))
    rw [readTag]
    · rw [if_neg hlast, hnamed]
      rfl
    · rintro name' h'
      exact hc (List.head_eq_of_cons_eq h')

lemma readTag_empty (hname : isName name = true) (h : Writable attrs) :
    readTag (tagText name attrs ++ ['/']) = some (.empty (String.ofList name) (texts attrs)) := by
  have hnamed := readNamed_tagText hname h
  cases name with
  | nil => cases hname
  | cons c cs =>
    have hc : c ≠ '/' := ne_slash_of_isName (isName.mem hname (by simp))
    rw [readTag]
    · rw [if_pos (by simp), List.dropLast_concat, hnamed]
      rfl
    · rintro name' h'
      exact hc (List.head_eq_of_cons_eq h')

lemma readTag_closing (hname : isName name = true) :
    readTag ('/' :: name) = some (.closing (String.ofList name)) := by
  simp [readTag, hname]

end tags

/-! ### Trees -/

/-- An element that is not closed yet, with the default namespace within it. -/
structure Frame where
  name : String
  space : String
  attrib : List (String × String)
  text : String
  children : List Element := []

/-- A name within a namespace. -/
def qualified (space name : String) : String :=
  if space = "" then name else "\x7b" ++ space ++ "\x7d" ++ name

/-- Namespaces that no document may choose. -/
def reserved : List String :=
  ["http://www.w3.org/XML/1998/namespace", "http://www.w3.org/2000/xmlns/"]

namespace Frame

/-- An element is opened within others. -/
def enter (stack : List Frame) (name : String) (attrib : List (String × String)) (text : String) :
    Frame where
  name
  space := match attrib.find? fun a => a.1 = "xmlns" with
    | some declared => declared.2
    | none => (stack.head?.map (·.space)).getD ""
  attrib := attrib.filter fun a => a.1 ≠ "xmlns"
  text

/-- The element. -/
def leave (f : Frame) : Element :=
  .node (qualified f.space f.name) f.attrib f.text f.children

def add (f : Frame) (e : Element) : Frame := { f with children := f.children ++ [e] }

end Frame

/-- An element is complete: it becomes a child, or it is the document, and only blanks follow. -/
def complete (e : Element) (stack : List Frame) (text : String) (last : Bool) :
    Option (List Frame ⊕ Element) :=
  match stack with
  | parent :: below => some (.inl (parent.add e :: below))
  | [] => if last ∧ text.toList.all (fun c => c = ' ' || c = '\t' || c = '\n') then some (.inr e)
    else none

/-- The tree of a document, from its tags and their texts. -/
def tree : List Frame → List (List Char × List Char) → Option Element
  | _, [] => none
  | stack, (tag, after) :: rest =>
    match readTag tag, (unescape after).map String.ofList with
    | some (.opening name attrib), some text =>
      let frame := Frame.enter stack name attrib text
      if frame.space ∈ reserved then none else tree (frame :: stack) rest
    | some (.closing name), some text =>
      match stack with
      | [] => none
      | top :: below =>
        if top.name = name then
          match complete top.leave below text rest.isEmpty with
          | some (.inl stack) => tree stack rest
          | some (.inr e) => some e
          | none => none
        else none
    | some (.empty name attrib), some text =>
      let frame := Frame.enter stack name attrib ""
      if frame.space ∈ reserved then none
      else
        match complete frame.leave stack text rest.isEmpty with
        | some (.inl stack) => tree stack rest
        | some (.inr e) => some e
        | none => none
    | _, _ => none

section trees

variable {space : String} {name text : List Char} {attrs : List (List Char × List Char)}
  {es : List Element} {tss : List (List (List Char × List Char))}

/-- Within a namespace, the tags are those of an element. -/
def Reads (space : String) (ts : List (List Char × List Char)) (e : Element) : Prop :=
  ∀ parent below rest, parent.space = space →
    tree (parent :: below) (ts ++ rest) = tree (parent.add e :: below) rest

lemma notMem_texts {key : String} (h : key.toList ∉ attrs.map (·.1)) :
    ∀ a ∈ texts attrs, a.1 ≠ key := by
  rintro a ha rfl
  obtain ⟨b, hb, rfl⟩ := List.mem_map.mp ha
  exact h (List.mem_map.mpr ⟨b, hb, by simp⟩)

/-- Without a namespace of its own, an element has that of its parent. -/
lemma enter_eq {parent : Frame} {below : List Frame} (h : "xmlns".toList ∉ attrs.map (·.1))
    (name text : String) :
    Frame.enter (parent :: below) name (texts attrs) text =
      ⟨name, parent.space, texts attrs, text, []⟩ := by
  have hne := notMem_texts h
  have hfind : (texts attrs).find? (fun a => a.1 = "xmlns") = none := by
    simpa using fun a b hab => hne (a, b) hab
  have hfilter : (texts attrs).filter (fun a => a.1 ≠ "xmlns") = texts attrs := by
    rw [List.filter_eq_self]
    simpa using fun a b hab => hne (a, b) hab
  rw [Frame.enter, hfind, hfilter]
  rfl

/-- The children of an element are read one after the other. -/
lemma Reads.children (h : List.Forall₂ (Reads space) tss es) (parent : Frame) (below : List Frame)
    (rest : List (List Char × List Char)) (hspace : parent.space = space) :
    tree (parent :: below) (tss.flatten ++ rest) =
      tree ({ parent with children := parent.children ++ es } :: below) rest := by
  induction h generalizing parent with
  | nil => simp
  | cons hread _ ih =>
    rw [List.flatten_cons, List.append_assoc, hread parent below _ hspace, ih]
    · simp [Frame.add]
    · exact hspace

lemma tree_opening {stack : List Frame} {rest : List (List Char × List Char)}
    (hname : isName name = true) (hattrs : Writable attrs)
    (hspace : (Frame.enter stack (String.ofList name) (texts attrs)
      (String.ofList text)).space ∉ reserved) :
    tree stack ((tagText name attrs, escape text) :: rest) =
      tree (Frame.enter stack (String.ofList name) (texts attrs) (String.ofList text) :: stack)
        rest := by
  rw [tree, readTag_opening hname hattrs, unescape_escape]
  simp only [Option.map_some, if_neg hspace]

lemma tree_closing {top parent : Frame} {below : List Frame}
    {rest : List (List Char × List Char)} (hname : isName name = true)
    (htop : top.name = String.ofList name) :
    tree (top :: parent :: below) (('/' :: name, []) :: rest) =
      tree (parent.add top.leave :: below) rest := by
  rw [tree, readTag_closing hname]
  simp [unescape, htop, complete]

/-- An element with its children. -/
lemma reads_node (hname : isName name = true) (hattrs : Writable attrs)
    (hns : "xmlns".toList ∉ attrs.map (·.1)) (hspace : space ∉ reserved)
    (h : List.Forall₂ (Reads space) tss es) :
    Reads space ((tagText name attrs, escape text) :: (tss.flatten ++ [('/' :: name, [])]))
      (.node (qualified space (String.ofList name)) (texts attrs) (String.ofList text) es) := by
  rintro parent below rest rfl
  rw [List.cons_append, tree_opening hname hattrs (by rw [enter_eq hns]; exact hspace),
    enter_eq hns, List.append_assoc,
    Reads.children h ⟨_, parent.space, texts attrs, String.ofList text, []⟩ _ _ rfl,
    List.singleton_append, tree_closing hname rfl]
  rfl

/-- An element without anything in it. -/
lemma reads_empty (hname : isName name = true) (hattrs : Writable attrs)
    (hns : "xmlns".toList ∉ attrs.map (·.1)) (hspace : space ∉ reserved) :
    Reads space [(tagText name attrs ++ ['/'], [])]
      (.node (qualified space (String.ofList name)) (texts attrs) "" []) := by
  rintro parent below rest rfl
  rw [List.singleton_append, tree, readTag_empty hname hattrs]
  simp only [unescape, Option.map_some, enter_eq hns, if_neg hspace, complete]
  rfl

/-- A document whose root declares a namespace. -/
lemma tree_root (hname : isName name = true) {uri : String} (huri : isPlain uri.toList = true)
    (hquote : '"' ∉ uri.toList ∧ '>' ∉ uri.toList) (hspace : uri ∉ reserved)
    (h : List.Forall₂ (Reads uri) tss es) :
    tree [] ((tagText name [("xmlns".toList, uri.toList)], escape text) ::
        (tss.flatten ++ [('/' :: name, [])])) =
      some (.node (qualified uri (String.ofList name)) [] (String.ofList text) es) := by
  have hattrs : Writable [("xmlns".toList, uri.toList)] := by
    refine ⟨?_, by simp⟩
    simp only [List.mem_singleton, forall_eq]
    exact ⟨by decide, huri, hquote.1, hquote.2⟩
  have henter : Frame.enter [] (String.ofList name) (texts [("xmlns".toList, uri.toList)])
      (String.ofList text) = ⟨String.ofList name, uri, [], String.ofList text, []⟩ := by
    simp [Frame.enter, texts]
  rw [tree_opening hname hattrs (by rw [henter]; exact hspace), henter, Reads.children h _ _ _ rfl,
    tree, readTag_closing hname]
  simp [unescape, complete, Frame.leave]

end trees

def declaration : String := "<?xml version=\"1.0\" encoding=\"UTF-8\" standalone=\"yes\"?>"

/-- A document of the fragment. -/
def parse (doc : String) : Option Element :=
  if doc.toList.all legal then
    let cs := lineEnds doc.toList
    let first := declaration.toList
    let body := if first.isPrefixOf cs then cs.drop first.length else cs
    match scan body with
    | some (before, tags) =>
      if before.all fun c => c = ' ' || c = '\t' || c = '\n' then tree [] tags else none
    | none => none
  else none

section documents

variable {cs : List Char} {tags : List (List Char × List Char)} {e : Element}

/-- Tags can be told apart from texts. -/
def Separable (tags : List (List Char × List Char)) : Prop :=
  ∀ p ∈ tags, '<' ∉ p.1 ∧ '>' ∉ p.1 ∧ '<' ∉ p.2

/-- A document, once its ends of lines are uniform, is read as the tree of its tags. -/
lemma parse_document (hlegal : cs.all legal = true) (hcs : lineEnds cs = declaration.toList ++ render tags)
    (htags : Separable tags) (htree : tree [] tags = some e) : parse (String.ofList cs) = some e := by
  have hprefix : declaration.toList.isPrefixOf (lineEnds cs) = true := by
    rw [hcs, List.isPrefixOf_iff_prefix]
    exact List.prefix_append _ _
  simp only [parse, String.toList_ofList, hlegal, if_true, hprefix]
  rw [hcs, List.drop_left, scan_render htags]
  simpa using htree

lemma lineEnds_append_render (a : List Char) (tags : List (List Char × List Char)) :
    lineEnds (a ++ render tags) = lineEnds a ++ lineEnds (render tags) := by
  apply lineEnds_append
  cases tags with
  | nil => simp [render]
  | cons p tags =>
    rintro c hc
    cases hc
    exact ⟨by decide, by decide⟩

/-- Only texts have ends of lines. -/
lemma lineEnds_render (h : ∀ p ∈ tags, '\r' ∉ p.1) :
    lineEnds (render tags) = render (tags.map fun p => (p.1, lineEnds p.2)) := by
  induction tags with
  | nil => rfl
  | cons p tags ih =>
    have hcons : ∀ (q : List Char × List Char) rest,
        render (q :: rest) = ('<' :: (q.1 ++ '>' :: q.2)) ++ render rest := fun _ _ => rfl
    have htag : ∀ c ∈ '<' :: (p.1 ++ ['>']), c ≠ '\r' := by
      rintro c hc rfl
      have := h p (by simp)
      simp_all
    have htext : '<' :: (p.1 ++ '>' :: p.2) = ('<' :: (p.1 ++ ['>'])) ++ p.2 := by simp
    rw [List.map_cons, hcons, hcons, lineEnds_append_render, ih fun q hq => h q (by simp [hq]),
      htext, lineEnds_append_of_forall htag]
    simp

lemma legal_render : (render tags).all legal = true ↔
    ∀ p ∈ tags, p.1.all legal = true ∧ p.2.all legal = true := by
  induction tags with
  | nil => simp [render]
  | cons p tags ih =>
    have hcons : render (p :: tags) = ('<' :: (p.1 ++ '>' :: p.2)) ++ render tags := rfl
    have hopen : legal '<' = true := rfl
    have hclose : legal '>' = true := rfl
    rw [hcons, List.all_append, Bool.and_eq_true, ih, List.forall_mem_cons, List.all_cons,
      List.all_append, List.all_cons, hopen, hclose]
    simp

/-- Something that looks like a declaration of a type. -/
def bang : List Char → Bool
  | '<' :: '!' :: _ => true
  | _ :: cs => bang cs
  | [] => false

lemma bang_of_within {s : List Char} (h : '<' :: '!' :: s <:+: cs) : bang cs = true := by
  induction cs with
  | nil => simp at h
  | cons c cs ih =>
    rcases List.infix_cons_iff.mp h with hprefix | hwithin
    · obtain ⟨t, ht⟩ := hprefix
      rw [← ht]
      rfl
    · have := ih hwithin
      unfold bang
      split <;> simp_all

lemma bang_append (h : '<' ∉ cs) (after : List Char) : bang (cs ++ after) = bang after := by
  induction cs with
  | nil => rfl
  | cons c cs ih =>
    simp only [List.mem_cons, not_or] at h
    rw [List.cons_append, bang, ih h.2]
    rintro cs' rfl
    exact absurd rfl h.1

lemma bang_cons_of_ne {c : Char} (hc : c ≠ '!') (after : List Char) :
    bang ('<' :: c :: after) = bang (c :: after) := by
  rw [bang]
  rintro cs' - h
  exact hc (List.cons.inj h).1

/-- No tag of a document looks like one. -/
lemma bang_render (htags : Separable tags) (h : ∀ p ∈ tags, '!' ∉ p.1) :
    bang (render tags) = false := by
  induction tags with
  | nil => rfl
  | cons p tags ih =>
    obtain ⟨hopen, -, htext⟩ := htags p (by simp)
    have hnot := h p (by simp)
    have hrest := ih (fun q hq => htags q (by simp [hq])) fun q hq => h q (by simp [hq])
    have hcons : render (p :: tags) = '<' :: ((p.1 ++ '>' :: p.2) ++ render tags) := rfl
    have hskip : bang ((p.1 ++ '>' :: p.2) ++ render tags) = false := by
      rw [bang_append, hrest]
      simp [hopen, htext]
    cases hname : p.1 with
    | nil =>
      rw [hname] at hcons hskip
      rw [hcons]
      exact (bang_cons_of_ne (by decide) _).trans hskip
    | cons c cs =>
      rw [hname] at hcons hskip hnot
      rw [hcons]
      refine (bang_cons_of_ne ?_ _).trans hskip
      rintro rfl
      simp at hnot

/-- Only letters become letters. -/
lemma toUpper_eq_iff {c d : Char} (h : d.isAlpha = false) : c.toUpper = d ↔ c = d := by
  by_cases hlower : 'a'.val ≤ c.val ∧ c.val ≤ 'z'.val
  · have hlow : 97 ≤ c.toNat := hlower.1
    have hhigh : c.toNat ≤ 122 := hlower.2
    have hletters : ∀ n ≤ 122, 97 ≤ n →
        (Char.ofNat n).isAlpha = true ∧ (Char.ofNat n).toUpper.isAlpha = true := by decide
    have hletter := hletters _ hhigh hlow
    rw [Char.ofNat_toNat] at hletter
    constructor
    · rintro rfl
      rw [hletter.2] at h
      cases h
    · rintro rfl
      rw [hletter.1] at h
      cases h
  · unfold Char.toUpper
    rw [dif_neg hlower]

/-- The case of letters does not matter to this. -/
lemma bang_map_toUpper (cs : List Char) : bang (cs.map Char.toUpper) = bang cs := by
  have hskip : ∀ {c : Char} cs, c ≠ '<' → bang (c :: cs) = bang cs :=
    fun {c} cs h => by
    simpa using bang_append (show '<' ∉ [c] by simpa using Ne.symm h) cs
  induction cs with
  | nil => rfl
  | cons c cs ih =>
    by_cases hc : c = '<'
    · subst hc
      cases cs with
      | nil => rfl
      | cons d ds =>
        by_cases hd : d = '!'
        · subst hd
          rfl
        · have hup : d.toUpper ≠ '!' := fun h => hd ((toUpper_eq_iff rfl).mp h)
          have hopen : Char.toUpper '<' = '<' := rfl
          rw [bang_cons_of_ne hd, ← ih, List.map_cons, List.map_cons, hopen, bang_cons_of_ne hup]
    · have hup : c.toUpper ≠ '<' := fun h => hc ((toUpper_eq_iff rfl).mp h)
      rw [List.map_cons, hskip _ hup, hskip _ hc, ih]

end documents

/-- A parser that reads what `parse` reads, and refuses illegal characters. -/
structure Conforming (read : String → Option Element) : Prop where
  reads : ∀ doc e, parse doc = some e → read doc = some e
  refuses : ∀ doc : String, doc.toList.all legal = false → read doc = none

lemma conforming_parse : Conforming parse := by
  refine ⟨fun _ _ h => h, fun doc h => ?_⟩
  rw [parse, h]
  rfl

end Markup
