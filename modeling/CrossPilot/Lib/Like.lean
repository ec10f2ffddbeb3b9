import Mathlib.Tactic

/-!
# SQL's `LIKE`

A pattern is read into tokens first: `%` stands for any text, `_` for any character, and the
character after the escape for itself. Two characters count as the same if a folding of the
characters maps them to one, so that `LIKE` is the case of the identity and `ILIKE` the case of
the folding of a locale.

A text that is escaped and put between two `%` is found exactly where it occurs.
-/

namespace Like

/-- What a pattern is made of. -/
inductive Token
  | anyText
  | anyChar
  | literal (c : Char)
  deriving DecidableEq

/-- Read a pattern, with `\` for the escape. -/
def tokens : List Char → List Token
  | [] => []
  | '%' :: cs => .anyText :: tokens cs
  | '_' :: cs => .anyChar :: tokens cs
  | '\\' :: c :: cs => .literal c :: tokens cs
  | c :: cs => .literal c :: tokens cs

/-- A text fits a pattern. -/
def fits (fold : Char → Char) : List Token → List Char → Bool
  | [], text => text.isEmpty
  | .anyText :: ts, text => text.tails.any (fits fold ts)
  | .anyChar :: ts, text =>
    match text with
    | [] => false
    | _ :: rest => fits fold ts rest
  | .literal c :: ts, text =>
    match text with
    | [] => false
    | d :: rest => fold c == fold d && fits fold ts rest

/-- `text ILIKE pattern ESCAPE '\'`. -/
def ilike (fold : Char → Char) (text pattern : String) : Bool :=
  fits fold (tokens pattern.toList) text.toList

/-- `value.replace(c, "\" + c)`. -/
def escapeChar (c : Char) (value : List Char) : List Char :=
  value.flatMap fun d => if d = c then ['\\', d] else [d]

/-- The pattern of the texts that contain a value. -/
def containing (value : String) : String :=
  String.ofList ('%' :: (escapeChar '_' (escapeChar '%' (escapeChar '\\' value.toList)) ++ ['%']))

/-! ### A value that is looked for -/

@[simp] lemma escapeChar_nil (c : Char) : escapeChar c [] = [] := rfl

@[simp] lemma escapeChar_cons (c d : Char) (value : List Char) :
    escapeChar c (d :: value) = (if d = c then ['\\', d] else [d]) ++ escapeChar c value := rfl

lemma escapeChar_append (c : Char) (v w : List Char) :
    escapeChar c (v ++ w) = escapeChar c v ++ escapeChar c w := by
  simp [escapeChar]

/-- An escaped value is read as its own characters. -/
lemma tokens_escape (value rest : List Char) :
    tokens (escapeChar '_' (escapeChar '%' (escapeChar '\\' value)) ++ rest) =
      value.map .literal ++ tokens rest := by
  induction value with
  | nil => rfl
  | cons c value ih =>
    by_cases hescape : c = '\\'
    · subst hescape
      simpa [escapeChar_append, tokens] using ih
    by_cases hpercent : c = '%'
    · subst hpercent
      simpa [escapeChar_append, tokens] using ih
    by_cases hunder : c = '_'
    · subst hunder
      simpa [escapeChar_append, tokens] using ih
    · simpa [escapeChar_append, hescape, hpercent, hunder, tokens] using ih

lemma tokens_containing (value : String) :
    tokens (containing value).toList = .anyText :: (value.toList.map .literal ++ [.anyText]) := by
  simp [containing, tokens, tokens_escape]

/-- Literals followed by any text fit what begins with them. -/
lemma fits_literals {fold : Char → Char} (value text : List Char) :
    fits fold (value.map .literal ++ [.anyText]) text ↔ value.map fold <+: text.map fold := by
  induction value generalizing text with
  | nil => simp [fits]
  | cons c value ih =>
    cases text with
    | nil => simp [fits]
    | cons d text => simp [fits, ih, List.cons_prefix_cons]

/-- A value is found in the texts that contain it, up to the folding. -/
theorem ilike_containing {fold : Char → Char} {text value : String} :
    ilike fold text (containing value) ↔
      value.toList.map fold <:+: text.toList.map fold := by
  rw [ilike, tokens_containing]
  simp only [fits, List.any_eq_true, List.mem_tails, fits_literals]
  constructor
  · rintro ⟨rest, hrest, hvalue⟩
    exact hvalue.isInfix.trans (hrest.map fold).isInfix
  · rintro ⟨before, after, h⟩
    have hlen : before.length ≤ text.toList.length := by
      have := congrArg List.length h
      simp at this
      omega
    refine ⟨text.toList.drop before.length, List.drop_suffix _ _, ?_⟩
    have hdrop := congrArg (List.drop before.length) h
    rw [List.append_assoc, List.drop_left, ← List.map_drop] at hdrop
    exact hdrop ▸ List.prefix_append _ _

/-- A text contains itself. -/
lemma ilike_containing_append (fold : Char → Char) (before value : String) :
    ilike fold (before ++ value) (containing value) :=
  ilike_containing.2 ⟨before.toList.map fold, [], by simp⟩

/-- A value that is found in a text of one character is that character, up to the folding. -/
lemma map_fold_of_ilike {fold : Char → Char} {a : Char} {value : String} (hvalue : value ≠ "")
    (h : ilike fold (String.ofList [a]) (containing value)) :
    value.toList.map fold = [fold a] := by
  have hinfix : value.toList.map fold <:+: [fold a] := by
    simpa using ilike_containing.1 h
  have hpos : 0 < (value.toList.map fold).length := by
    rw [List.length_map, List.length_pos_iff]
    simpa using hvalue
  exact hinfix.eq_of_length (le_antisymm hinfix.length_le hpos)

/-- No value is found in two texts of one character each, unless the folding makes them one. -/
lemma not_ilike_or {fold : Char → Char} {a b : Char} (hab : fold a ≠ fold b) {value : String}
    (hvalue : value ≠ "") : ilike fold (String.ofList [a]) (containing value) = false ∨
      ilike fold (String.ofList [b]) (containing value) = false := by
  by_contra h
  rw [not_or, Bool.not_eq_false, Bool.not_eq_false] at h
  have hone := map_fold_of_ilike hvalue h.1
  rw [map_fold_of_ilike hvalue h.2] at hone
  exact hab (by simpa using hone.symm)

/-! ### A value that is not escaped -/

lemma tokens_plain {c : Char} (hpercent : c ≠ '%') (hunder : c ≠ '_') (hescape : c ≠ '\\')
    (cs : List Char) : tokens (c :: cs) = .literal c :: tokens cs := by
  rw [tokens]
  · exact hpercent
  · exact hunder
  · exact fun _ _ heq _ => hescape heq

/-- A value without wildcards is read as what it escapes: as itself if it has no escapes, and as
something shorter otherwise. -/
lemma tokens_raw {sep : Char} (hsep : sep ≠ '%' ∧ sep ≠ '_' ∧ sep ≠ '\\') (rest : List Char)
    (value : List Char) (h : ∀ c ∈ value, c ≠ '%' ∧ c ≠ '_') : ∃ read : List Char,
      tokens (value ++ sep :: rest) = read.map .literal ++ .literal sep :: tokens rest ∧
      (∀ c ∈ read, c ∈ value) ∧
      if '\\' ∈ value then read.length < value.length else read = value := by
  induction hn : value.length using Nat.strong_induction_on generalizing value with
  | _ n ih =>
    subst hn
    cases value with
    | nil => exact ⟨[], by simp [tokens_plain hsep.1 hsep.2.1 hsep.2.2], by simp, by simp⟩
    | cons c value =>
      obtain ⟨hc, hvalue⟩ := List.forall_mem_cons.mp h
      by_cases hescape : c = '\\'
      · subst hescape
        cases value with
        | nil => exact ⟨[], by simp [tokens], by simp, by simp⟩
        | cons d value =>
          obtain ⟨read, htokens, hmem, hread⟩ := ih value.length
            (by simp only [List.length_cons]; omega) value
            (List.forall_mem_cons.mp hvalue).2 rfl
          refine ⟨d :: read, by simp [tokens, htokens], fun x hx => ?_, ?_⟩
          · rcases List.mem_cons.mp hx with rfl | hx
            · simp
            · simp [hmem x hx]
          · rw [if_pos (by simp)]
            split_ifs at hread
            · simp only [List.length_cons]
              omega
            · simp [hread]
      · obtain ⟨read, htokens, hmem, hread⟩ := ih value.length
          (by simp only [List.length_cons]; omega) value hvalue rfl
        refine ⟨c :: read, by simp [tokens_plain hc.1 hc.2 hescape, htokens], fun x hx => ?_, ?_⟩
        · rcases List.mem_cons.mp hx with rfl | hx
          · simp
          · simp [hmem x hx]
        · have hiff : '\\' ∈ c :: value ↔ '\\' ∈ value := by
            simp [Ne.symm hescape]
          simp only [hiff, List.length_cons, List.cons.injEq, true_and, Nat.add_lt_add_iff_right]
          exact hread

/-- Only what stands before the separator is compared with what is looked for. -/
lemma prefix_separated {sep : Char} {read value : List Char} (hread : sep ∉ read)
    (hvalue : sep ∉ value) (rest : List Char) :
    read ++ [sep] <+: value ++ sep :: rest ↔ read = value := by
  induction read generalizing value with
  | nil =>
    cases value with
    | nil => simp
    | cons d value =>
      simp only [List.mem_cons, not_or] at hvalue
      simp [List.cons_prefix_cons, hvalue.1]
  | cons c read ih =>
    simp only [List.mem_cons, not_or] at hread
    cases value with
    | nil => simp [List.cons_prefix_cons, Ne.symm hread.1]
    | cons d value =>
      simp only [List.mem_cons, not_or] at hvalue
      simp [List.cons_prefix_cons, ih hread.2 hvalue.2]

/-- A value that is put before a separator and any text, without escaping it, is found again exactly
if it has no escapes. -/
theorem fits_group_iff {sep : Char} (hsep : sep ≠ '%' ∧ sep ≠ '_' ∧ sep ≠ '\\')
    {value : List Char} (h : ∀ c ∈ value, c ≠ '%' ∧ c ≠ '_' ∧ c ≠ sep) (rest : List Char) :
    fits id (tokens (value ++ [sep, '%'])) (value ++ sep :: rest) ↔ '\\' ∉ value := by
  obtain ⟨read, htokens, hmem, hread⟩ :=
    tokens_raw hsep ['%'] value fun c hc => ⟨(h c hc).1, (h c hc).2.1⟩
  have hsepValue : sep ∉ value := fun hin => (h sep hin).2.2 rfl
  have hsepRead : sep ∉ read := fun hin => hsepValue (hmem sep hin)
  have hpattern : tokens (value ++ [sep, '%']) =
      (read ++ [sep]).map .literal ++ [.anyText] := by simp [htokens, tokens]
  rw [hpattern, fits_literals, List.map_id, List.map_id, prefix_separated hsepRead hsepValue]
  split_ifs at hread with hin
  · refine iff_of_false (fun heq => ?_) (not_not.mpr hin)
    rw [heq] at hread
    exact lt_irrefl _ hread
  · exact iff_of_true hread hin

end Like
