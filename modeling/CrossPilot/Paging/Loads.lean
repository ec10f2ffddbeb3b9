import CrossPilot.Sync.Pushed

/-!
# JSON texts

What `json.loads` makes of a text, and how `json.dumps` writes a flat object. A text is cut into
tokens, and a machine with a stack puts the tokens together; `depth` containers may be open at a time
before Python gives up. How a number with a fraction or an exponent is rounded is a parameter. A
surrogate alone, for which there is no character here, is read as the replacement character.
-/

namespace CrossPilot.Paging

open Webhook

/-! ### Characters of texts -/

def quote : Char := Char.ofNat 34

def backslash : Char := Char.ofNat 92

/-- What is read for a surrogate alone. -/
def replacement : Char := Char.ofNat 65533

/-- The letters of escapes, and what they stand for. -/
def escapes : List (Char × Char) :=
  [(quote, quote), (backslash, backslash), ('/', '/'), ('b', Char.ofNat 8), ('f', Char.ofNat 12),
   ('n', Char.ofNat 10), ('r', Char.ofNat 13), ('t', Char.ofNat 9)]

def hexValue (c : Char) : Option ℕ :=
  if '0' ≤ c ∧ c ≤ '9' then some (c.toNat - 48)
  else if 'a' ≤ c ∧ c ≤ 'f' then some (c.toNat - 87)
  else if 'A' ≤ c ∧ c ≤ 'F' then some (c.toNat - 55)
  else none

/-- The number in the next four hexadecimal digits. -/
def codeUnit : List Char → Option ℕ
  | a :: b :: c :: d :: _ => do
    let a ← hexValue a
    let b ← hexValue b
    let c ← hexValue c
    let d ← hexValue d
    return ((a * 16 + b) * 16 + c) * 16 + d
  | _ => none

def isHighSurrogate (n : ℕ) : Bool := 55296 ≤ n && n < 56320

def isLowSurrogate (n : ℕ) : Bool := 56320 ≤ n && n < 57344

/-- The number in an escape that comes next. -/
def nextUnit : List Char → Option (Option ℕ)
  | b :: u :: cs => if b = backslash ∧ u = 'u' then some (codeUnit cs) else none
  | _ => none

/-- The character with a number, after which `cs` comes, and the length of its escape. A pair of
surrogates stands for one character. -/
def unitCharacter (n : ℕ) (cs : List Char) : Option (Char × ℕ) :=
  if isHighSurrogate n then
    match nextUnit cs with
    | none => some (replacement, 6)
    | some none => none
    | some (some m) =>
      if isLowSurrogate m then
        some (Char.ofNat (65536 + (n - 55296) * 1024 + (m - 56320)), 12)
      else some (replacement, 6)
  else if isLowSurrogate n then some (replacement, 6)
  else some (Char.ofNat n, 6)

/-- The next character of a text, and how many characters it is written with. -/
def character : List Char → Option (Char × ℕ)
  | [] => none
  | c :: cs =>
    if c = backslash then
      if cs.head? = some 'u' then
        (codeUnit cs.tail).bind fun n => unitCharacter n (cs.drop 5)
      else (cs.head?.bind fun e => escapes.lookup e).map fun d => (d, 2)
    else if c.toNat < 32 then none
    else some (c, 1)

/-- A text after its first quotation mark, and how many characters it takes with the last one.
Characters that have been read already are skipped. -/
def readString : ℕ → List Char → Option (List Char × ℕ)
  | _, [] => none
  | skip + 1, _ :: cs => (readString skip cs).map fun (s, n) => (s, n + 1)
  | 0, c :: cs =>
    if c = quote then some ([], 1)
    else
      (character (c :: cs)).bind fun (d, n) =>
        (readString (n - 1) cs).map fun (s, k) => (d :: s, k + 1)

/-! ### Numbers -/

/-- How many digits come next. -/
def run (cs : List Char) : ℕ := (cs.takeWhile Char.isDigit).length

/-- How many digits of a whole number come next. Nothing follows a leading zero. -/
def wholePart (cs : List Char) : ℕ := if cs.head? = some '0' then 1 else run cs

/-- How long the fraction is that comes next. -/
def fractionPart : List Char → ℕ
  | c :: cs => if c = '.' ∧ 0 < run cs then run cs + 1 else 0
  | [] => 0

/-- How long the exponent is that comes next. -/
def exponentPart : List Char → ℕ
  | c :: cs =>
    let sign := if cs.head? = some '+' ∨ cs.head? = some '-' then 1 else 0
    if (c = 'e' ∨ c = 'E') ∧ 0 < run (cs.drop sign) then 1 + sign + run (cs.drop sign) else 0
  | [] => 0

/-- `int` of a text with a sign, as long as it has no more than 4300 digits. -/
def wholeNumber (negative : Bool) (ds : List Char) : Option ℤ :=
  if 4300 < ds.length then none
  else
    let n : ℕ := ds.foldl (fun n c => n * 10 + (c.toNat - 48)) 0
    some (if negative then -(n : ℤ) else n)

/-- A number, and how many characters it takes. -/
def readNumber (real : String → PyFloat) (cs : List Char) : Option (Json × ℕ) :=
  let negative := cs.head? = some '-'
  let sign := if negative then 1 else 0
  let whole := wholePart (cs.drop sign)
  if whole = 0 then none
  else
    let fraction := fractionPart (cs.drop (sign + whole))
    let length := sign + whole + fraction + exponentPart (cs.drop (sign + whole + fraction))
    if length = sign + whole then
      (wholeNumber negative ((cs.drop sign).take whole)).map fun n => (.int n, length)
    else some (.float (real (String.ofList (cs.take length))), length)

/-! ### Tokens -/

inductive Token
  | beginList | endList | beginDict | endDict | comma | colon
  | text (s : String)
  | scalar (j : Json)

/-- The marks, each one character long. -/
def marks : List (Char × Token) :=
  [('[', .beginList), (']', .endList), (Char.ofNat 123, .beginDict), (Char.ofNat 125, .endDict),
   (',', .comma), (':', .colon)]

/-- The words. -/
def wordTokens : List (List Char × Json) :=
  [(['n', 'u', 'l', 'l'], .null), (['t', 'r', 'u', 'e'], .bool true),
   (['f', 'a', 'l', 's', 'e'], .bool false), (['N', 'a', 'N'], .float .nan),
   (['I', 'n', 'f', 'i', 'n', 'i', 't', 'y'], .float (.infinite false)),
   (['-', 'I', 'n', 'f', 'i', 'n', 'i', 't', 'y'], .float (.infinite true))]

/-- The word that comes next. -/
def readWord (cs : List Char) : Option (Json × ℕ) :=
  (wordTokens.find? fun w => w.1.isPrefixOf cs).map fun w => (w.2, w.1.length)

/-- The next token, and how many characters it takes. -/
def token (real : String → PyFloat) : List Char → Option (Token × ℕ)
  | [] => none
  | c :: cs =>
    if c = quote then
      (readString 0 cs).map fun (s, n) => (.text (String.ofList s), n + 1)
    else
      match marks.lookup c with
      | some t => some (t, 1)
      | none =>
        ((readWord (c :: cs)).orElse fun _ => readNumber real (c :: cs)).map fun (j, n) =>
          (.scalar j, n)

def isBlank (c : Char) : Bool := c = ' ' || c = '\t' || c = '\n' || c = '\r'

/-- The tokens of a text. Characters that have been read already are skipped. -/
def tokens (real : String → PyFloat) : ℕ → List Char → Option (List Token)
  | _, [] => some []
  | skip + 1, _ :: cs => tokens real skip cs
  | 0, c :: cs =>
    if isBlank c then tokens real 0 cs
    else
      (token real (c :: cs)).bind fun (t, n) => (tokens real (n - 1) cs).map fun ts => t :: ts

/-! ### Values -/

/-- A container that is open: a list with the items before the one that is being read, or an object
with the entries before and the key of the value. -/
inductive Frame
  | list (items : List Json)
  | dict (entries : JsonObject) (key : String)

/-- What is expected. -/
inductive Machine
  | value (stack : List Frame)
  | first (stack : List Frame)
  | firstKey (stack : List Frame)
  | key (stack : List Frame) (entries : JsonObject)
  | colon (stack : List Frame) (entries : JsonObject) (key : String)
  | after (stack : List Frame) (j : Json)

/-- An entry, in the place of one with the same key. -/
def put (entries : JsonObject) (key : String) (j : Json) : JsonObject :=
  if entries.any fun e => e.1 = key then
    entries.map fun e => if e.1 = key then (key, j) else e
  else entries ++ [(key, j)]

namespace Machine

/-- A value begins. -/
def enter (depth : ℕ) (stack : List Frame) : Token → Option Machine
  | .scalar j => some (after stack j)
  | .text s => some (after stack (.str s))
  | .beginList => if stack.length < depth then some (first stack) else none
  | .beginDict => if stack.length < depth then some (firstKey stack) else none
  | _ => none

def step (depth : ℕ) : Machine → Token → Option Machine
  | value stack, t => enter depth stack t
  | first stack, .endList => some (after stack (.list []))
  | first stack, t => enter depth (.list [] :: stack) t
  | firstKey stack, .endDict => some (after stack (.dict []))
  | firstKey stack, .text k => some (colon stack [] k)
  | key stack entries, .text k => some (colon stack entries k)
  | colon stack entries k, .colon => some (value (.dict entries k :: stack))
  | after (.list items :: stack) j, .comma => some (value (.list (items ++ [j]) :: stack))
  | after (.list items :: stack) j, .endList => some (after stack (.list (items ++ [j])))
  | after (.dict entries k :: stack) j, .comma => some (key stack (put entries k j))
  | after (.dict entries k :: stack) j, .endDict => some (after stack (.dict (put entries k j)))
  | _, _ => none

/-- The value that has been read, if it is complete. -/
def result : Machine → Option Json
  | after [] j => some j
  | _ => none

end Machine

/-- `json.loads`. -/
def loads (real : String → PyFloat) (depth : ℕ) (cs : List Char) : Option Json :=
  if cs.head? = some (Char.ofNat 65279) then none
  else do
    let ts ← tokens real 0 cs
    let m ← ts.foldlM (Machine.step depth) (.value [])
    m.result

/-! ### Writing -/

/-- What a flat object holds: texts, and numbers of one digit. -/
inductive Scalar
  | text (s : String)
  | digit (n : Fin 10)

def Scalar.json : Scalar → Json
  | .text s => .str s
  | .digit n => .int n.val

/-- A character as it is written. Only ASCII is escaped, and no stroke. -/
def escapeChar (c : Char) : List Char :=
  match escapes.find? fun e => e.2 = c && c ≠ '/' with
  | some e => [backslash, e.1]
  | none =>
    if c.toNat < 32 then
      [backslash, 'u', '0', '0', Nat.digitChar (c.toNat / 16), Nat.digitChar (c.toNat % 16)]
    else [c]

def quoted (s : String) : List Char := quote :: (s.toList.flatMap escapeChar ++ [quote])

def Scalar.written : Scalar → List Char
  | .text s => quoted s
  | .digit n => [Nat.digitChar n.val]

abbrev Payload := List (String × Scalar)

namespace Payload

def written : Payload → List Char
  | [] => []
  | [(k, v)] => quoted k ++ ':' :: v.written
  | (k, v) :: f :: fs => quoted k ++ ':' :: (v.written ++ ',' :: written (f :: fs))

/-- The object as it is read. -/
def json (fs : Payload) : JsonObject := fs.map fun (k, v) => (k, v.json)

end Payload

/-- `json.dumps`, without blanks. -/
def dumps (fs : Payload) : List Char := Char.ofNat 123 :: (fs.written ++ [Char.ofNat 125])

section characters

variable {c : Char} {rest : List Char}

lemma escape_spec {e : Char × Char} (he : e ∈ escapes) :
    e.1 ≠ 'u' ∧ escapes.lookup e.1 = some e.2 := by
  have hall : ∀ e ∈ escapes, e.1 ≠ 'u' ∧ escapes.lookup e.1 = some e.2 := by
    decide
  exact hall e he

lemma hexValue_digitChar {n : ℕ} (h : n < 16) : hexValue (Nat.digitChar n) = some n := by
  have hall : ∀ n < 16, hexValue (Nat.digitChar n) = some n := by
    decide
  exact hall n h

/-- What has been written for a character is read as that character. -/
lemma character_escapeChar (c : Char) (rest : List Char) :
    character (escapeChar c ++ rest) = some (c, (escapeChar c).length) := by
  rw [escapeChar]
  split
  · rename_i e he
    have hmem := List.mem_of_find?_eq_some he
    have hchar := List.find?_some he
    simp only [Bool.and_eq_true, decide_eq_true_eq] at hchar
    obtain ⟨hu, hlookup⟩ := escape_spec hmem
    simp [character, hu, hlookup, hchar.1]
  · rename_i hnone
    split_ifs with hlow
    · have hunit : codeUnit ('0' :: '0' :: Nat.digitChar (c.toNat / 16) ::
          Nat.digitChar (c.toNat % 16) :: rest) = some c.toNat := by
        simp only [codeUnit, hexValue_digitChar (show c.toNat / 16 < 16 by omega),
          hexValue_digitChar (show c.toNat % 16 < 16 by omega),
          show hexValue '0' = some 0 from rfl, Option.bind_eq_bind, Option.bind_some]
        simp
        omega
      have hhigh : isHighSurrogate c.toNat = false := by
        simp [isHighSurrogate]
        omega
      have hlow' : isLowSurrogate c.toNat = false := by
        simp [isLowSurrogate]
        omega
      simp [character, hunit, unitCharacter, hhigh, hlow']
    · have hplain : c ≠ backslash := by
        rintro rfl
        exact absurd hnone (by decide)
      simp [character, hplain, hlow]

/-- No quotation mark is written but those around the text. -/
lemma exists_escapeChar (c : Char) : ∃ d w, escapeChar c = d :: w ∧ d ≠ quote := by
  rw [escapeChar]
  split
  · exact ⟨backslash, _, rfl, by decide⟩
  · rename_i hnone
    split_ifs with hlow
    · exact ⟨backslash, _, rfl, by decide⟩
    · refine ⟨c, [], rfl, ?_⟩
      rintro rfl
      exact absurd hnone (by decide)

lemma readString_skip (w rest : List Char) : readString w.length (w ++ rest) =
    (readString 0 rest).map fun (s, n) => (s, n + w.length) := by
  induction w with
  | nil => simp
  | cons c w ih =>
    rw [List.length_cons, List.cons_append, readString, ih, Option.map_map]
    rfl

/-- What has been written for a text is read as that text. -/
lemma readString_escaped (s rest : List Char) :
    readString 0 (s.flatMap escapeChar ++ quote :: rest) =
      some (s, (s.flatMap escapeChar).length + 1) := by
  induction s with
  | nil => simp [readString]
  | cons c s ih =>
    obtain ⟨d, w, hw, hd⟩ := exists_escapeChar c
    have hchar := character_escapeChar c (s.flatMap escapeChar ++ quote :: rest)
    rw [hw, List.length_cons, List.cons_append] at hchar
    rw [List.flatMap_cons, List.append_assoc, hw, List.cons_append, readString, if_neg hd, hchar,
      Option.bind_some]
    simp only [Nat.add_sub_cancel]
    rw [readString_skip, ih]
    simp
    omega

end characters

section tokens

variable {real : String → PyFloat} {rest : List Char}

lemma tokens_skip (w rest : List Char) :
    tokens real w.length (w ++ rest) = tokens real 0 rest := by
  induction w with
  | nil => rfl
  | cons c w ih =>
    rw [List.length_cons, List.cons_append, tokens, ih]

/-- A token that comes next, and what follows it. -/
lemma tokens_cons {c : Char} {w : List Char} {t : Token} (hblank : isBlank c = false)
    (ht : token real (c :: (w ++ rest)) = some (t, w.length + 1)) :
    tokens real 0 (c :: (w ++ rest)) = (tokens real 0 rest).map (t :: ·) := by
  rw [tokens, hblank, ht]
  simp only [Bool.false_eq_true, if_false, Option.bind_some, Nat.add_sub_cancel]
  rw [tokens_skip]

lemma tokens_mark {c : Char} {t : Token} (hc : c ≠ quote) (hblank : isBlank c = false)
    (ht : marks.lookup c = some t) :
    tokens real 0 (c :: rest) = (tokens real 0 rest).map (t :: ·) := by
  refine tokens_cons (w := []) hblank ?_
  rw [token, if_neg hc, ht]
  rfl

lemma tokens_quoted (s : String) :
    tokens real 0 (quoted s ++ rest) = (tokens real 0 rest).map (.text s :: ·) := by
  have hread := readString_escaped s.toList rest
  refine tokens_cons (w := s.toList.flatMap escapeChar ++ [quote]) (by decide) ?_
  rw [token, if_pos rfl, List.append_assoc, List.singleton_append, hread]
  simp

lemma tokens_digit (n : Fin 10) {c : Char} (hc : c = ',' ∨ c = Char.ofNat 125) :
    tokens real 0 (Nat.digitChar n.val :: c :: rest) =
      (tokens real 0 (c :: rest)).map (.scalar (.int n.val) :: ·) := by
  refine tokens_cons (w := []) ?_ ?_
  · revert n
    decide
  · have hnumber : readNumber real (Nat.digitChar n.val :: c :: rest) = some (.int n.val, 1) := by
      obtain rfl | rfl := hc <;> fin_cases n <;> rfl
    have hword : readWord (Nat.digitChar n.val :: c :: rest) = none := by
      fin_cases n <;> rfl
    have hmark : Nat.digitChar n.val ≠ quote ∧ marks.lookup (Nat.digitChar n.val) = none := by
      fin_cases n <;> exact ⟨by decide, rfl⟩
    rw [token, if_neg hmark.1, hmark.2]
    simp [hword, hnumber]

def Scalar.token : Scalar → Token
  | .text s => .text s
  | .digit n => .scalar (.int n.val)

lemma tokens_scalar (v : Scalar) {c : Char} (hc : c = ',' ∨ c = Char.ofNat 125) :
    tokens real 0 (v.written ++ c :: rest) = (tokens real 0 (c :: rest)).map (v.token :: ·) := by
  cases v with
  | text s => exact tokens_quoted s
  | digit n => exact tokens_digit n hc

namespace Payload

/-- The tokens of an object, without its brackets. -/
def tokens : Payload → List Token
  | [] => []
  | [(k, v)] => [.text k, .colon, v.token]
  | (k, v) :: f :: fs => .text k :: .colon :: v.token :: .comma :: tokens (f :: fs)

end Payload

lemma tokens_colon : tokens real 0 (':' :: rest) = (tokens real 0 rest).map (.colon :: ·) :=
  tokens_mark (by decide) rfl rfl

lemma tokens_comma : tokens real 0 (',' :: rest) = (tokens real 0 rest).map (.comma :: ·) :=
  tokens_mark (by decide) rfl rfl

lemma tokens_written (fs : Payload) : tokens real 0 (fs.written ++ [Char.ofNat 125]) =
    some (fs.tokens ++ [.endDict]) := by
  induction fs using Payload.written.induct with
  | case1 => rfl
  | case2 k v =>
    rw [Payload.written, List.append_assoc, tokens_quoted, List.cons_append, tokens_colon,
      tokens_scalar v (.inr rfl)]
    rfl
  | case3 k v f fs ih =>
    rw [Payload.written, List.append_assoc, tokens_quoted, List.cons_append, tokens_colon,
      List.append_assoc, List.cons_append, tokens_scalar v (.inl rfl), tokens_comma, ih]
    rfl

end tokens

section values

variable {depth : ℕ} {stack : List Frame} {entries : JsonObject}

lemma put_of_notMem {k : String} {j : Json} (h : k ∉ entries.map Prod.fst) :
    put entries k j = entries ++ [(k, j)] := by
  have hnone : entries.any (fun e => e.1 = k) = false := by
    simp only [List.any_eq_false, decide_eq_true_eq]
    rintro e he rfl
    exact h (List.mem_map_of_mem he)
  rw [put, hnone]
  rfl

lemma step_scalar (v : Scalar) :
    Machine.step depth (.value stack) v.token = some (.after stack v.json) := by
  cases v <;> rfl

/-- One entry is read, and what follows it decides how it goes on. -/
lemma foldlM_entry (k : String) (v : Scalar) (ts : List Token) :
    (Token.text k :: .colon :: v.token :: ts).foldlM (Machine.step depth) (.key stack entries) =
      ts.foldlM (Machine.step depth) (.after (.dict entries k :: stack) v.json) := by
  simp only [List.foldlM_cons, Option.bind_eq_bind]
  rw [Machine.step, Option.bind_some, Machine.step, Option.bind_some, step_scalar,
    Option.bind_some]

/-- The entries of an object are put together, behind those that have been read. -/
lemma foldlM_tokens {f : String × Scalar} {fs : Payload}
    (h : (entries.map Prod.fst ++ (f :: fs).map Prod.fst).Nodup) :
    (Payload.tokens (f :: fs) ++ [Token.endDict]).foldlM (Machine.step depth)
        (.key stack entries) =
      some (.after stack (.dict (entries ++ Payload.json (f :: fs)))) := by
  induction fs generalizing f entries with
  | nil =>
    obtain ⟨k, v⟩ := f
    have hk : k ∉ entries.map Prod.fst := fun hmem =>
      (List.nodup_append.mp h).2.2 k hmem k (by simp) rfl
    have hput := put_of_notMem (j := v.json) hk
    rw [Payload.tokens, List.cons_append, List.cons_append, List.cons_append, foldlM_entry]
    simp [Machine.step, hput, Payload.json]
  | cons g fs ih =>
    obtain ⟨k, v⟩ := f
    have hk : k ∉ entries.map Prod.fst := fun hmem =>
      (List.nodup_append.mp h).2.2 k hmem k (by simp) rfl
    have hput := put_of_notMem (j := v.json) hk
    have hrest := @ih (entries ++ [(k, v.json)]) g (by simpa using h)
    rw [Payload.tokens, List.cons_append, List.cons_append, List.cons_append, foldlM_entry,
      List.cons_append, List.foldlM_cons, Machine.step, hput, Option.bind_eq_bind,
      Option.bind_some, hrest]
    simp [Payload.json]

end values

/-- An object that has been written is read as it was. -/
theorem loads_dumps (real : String → PyFloat) {depth : ℕ} (hdepth : 0 < depth) {fs : Payload}
    (h : (fs.map Prod.fst).Nodup) : loads real depth (dumps fs) = some (.dict fs.json) := by
  have htokens : tokens real 0 (dumps fs) = some (.beginDict :: (fs.tokens ++ [.endDict])) := by
    rw [dumps, tokens_mark (by decide) rfl rfl, tokens_written, Option.map_some]
  have hstart : (dumps fs).head? ≠ some (Char.ofNat 65279) := by
    rw [dumps, List.head?_cons]
    decide
  have hfold : (Token.beginDict :: (fs.tokens ++ [.endDict])).foldlM (Machine.step depth) (.value []) =
      some (.after [] (.dict fs.json)) := by
    rw [List.foldlM_cons]
    simp only [Machine.step, Machine.enter, List.length_nil, hdepth, if_true, Option.bind_eq_bind,
      Option.bind_some]
    cases fs with
    | nil => rfl
    | cons f fs =>
      have hrun : (Payload.tokens (f :: fs) ++ [Token.endDict]).foldlM (Machine.step depth)
          (.key [] []) = some (.after [] (.dict ([] ++ Payload.json (f :: fs)))) :=
        foldlM_tokens (by simpa using h)
      -- the first key is read as any other
      cases fs <;> exact hrun
  rw [loads, if_neg hstart, htokens]
  simp only [Option.bind_eq_bind, Option.bind_some, hfold]
  rfl

end CrossPilot.Paging
