import CrossPilot.Lib.Text
import CrossPilot.Lib.UrlSplit

/-!
# The hosts of SNS

`amazon_sns_host_allowed` of `adapters/amazon/sns.py` tests the beginning and the end of a host. What
stands between them may be anything, or nothing.
-/

namespace CrossPilot.Sns

open UrlSplit

variable (lib : Library)

/-- A text that Python takes for true. -/
def truthy (text : Option (List Char)) : Bool := text.any (· ≠ [])

def amazonSnsHostAllowed (url : String) : Option Bool := do
  let parsed ← urlsplit lib (Text.stripChars url.toList)
  let host := lib.lower ((parsed.hostname lib).getD [])
  if parsed.scheme ≠ "https".toList ∨ truthy parsed.username ∨ truthy parsed.password then
    return false
  let port ← parsed.port
  if port ∉ [none, some 443] then return false
  if ¬ "sns.".toList <+: host then return false
  return ".amazonaws.com".toList <:+ host ∨ ".amazonaws.com.cn".toList <:+ host

/-! ### What is claimed -/

def suffixes : List (List Char) := [".amazonaws.com".toList, ".amazonaws.com.cn".toList]

/-- A part of a host between two dots. -/
def IsLabel (region : List Char) : Prop := region ≠ [] ∧ ∀ c ∈ region, c.isAlphanum ∨ c = '-'

/-- The host of a URL, in lower case. -/
def hostOf (p : Split) : List Char := lib.lower ((p.hostname lib).getD [])

structure Official (p : Split) : Prop where
  scheme : p.scheme = "https".toList
  port : p.port = some none ∨ p.port = some (some 443)
  userinfo : '@' ∉ p.netloc
  host : ∃ region suffix, IsLabel region ∧ suffix ∈ suffixes ∧
    hostOf lib p = "sns.".toList ++ region ++ suffix

/-- There is an answer, and only official hosts are allowed. -/
def AsClaimed (url : String) : Prop :=
  ∃ answer, amazonSnsHostAllowed lib url = some answer ∧ (answer = true →
    ∃ p, urlsplit lib (Text.stripChars url.toList) = some p ∧ Official lib p)

/-- The host begins and ends as an official one does. -/
def Resembles (host : List Char) : Prop :=
  "sns.".toList <+: host ∧ ∃ suffix ∈ suffixes, suffix <:+ host

instance (host : List Char) : Decidable (Resembles host) := inferInstanceAs (Decidable (_ ∧ _))

/-- What such a host must not be: one in which the beginning and the end share their dot, or one with
anything but one label between them. -/
structure Clear (host : List Char) : Prop where
  apart : host ≠ "sns.amazonaws.com".toList ∧ host ≠ "sns.amazonaws.com.cn".toList
  label : ∀ region suffix, suffix ∈ suffixes → host = "sns.".toList ++ region ++ suffix → IsLabel region

/-- The URL can be split. If it is one of HTTPS without user name and password, its port can be read,
and if this is the usual one and the host resembles an official one, then the host is clear and no
user information is set off from it. -/
def Meets (url : String) : Prop :=
  ∃ p, urlsplit lib (Text.stripChars url.toList) = some p ∧
    (p.scheme = "https".toList → truthy p.username = false → truthy p.password = false →
      ∃ port, p.port = some port ∧ (port ∈ [none, some 443] → Resembles (hostOf lib p) →
        '@' ∉ p.netloc ∧ Clear (hostOf lib p)))

/-! ### When it holds -/

/-- A beginning and an end of a text share some of it, or there is something between them. -/
lemma between_or_overlap {α : Type} {front back l : List α} (hfront : front <+: l) (hback : back <:+ l) :
    (∃ middle, l = front ++ middle ++ back) ∨
      ∃ shared rest, shared ≠ [] ∧ shared <:+ front ∧ back = shared ++ rest ∧ l = front ++ rest := by
  obtain ⟨rest, rfl⟩ := hfront
  obtain ⟨before, hbefore⟩ := hback
  obtain hle | hlt := le_or_gt front.length before.length
  · obtain ⟨middle, rfl⟩ : front <+: before := by
      apply List.prefix_of_prefix_length_le (List.prefix_append front rest) _ hle
      rw [← hbefore]
      exact List.prefix_append before back
    exact .inl ⟨middle, hbefore.symm⟩
  · obtain ⟨shared, rfl⟩ : before <+: front := by
      apply List.prefix_of_prefix_length_le _ (List.prefix_append front rest) hlt.le
      rw [← hbefore]
      exact List.prefix_append before back
    refine .inr ⟨shared, rest, ?_, List.suffix_append before shared, ?_, rfl⟩
    · rintro rfl
      simp at hlt
    · rw [List.append_assoc] at hbefore
      exact List.append_cancel_left hbefore

/-- The beginning shares no more than its dot with an end. -/
lemma resembles_cases {host : List Char} (h : Resembles host) :
    host = "sns.amazonaws.com".toList ∨ host = "sns.amazonaws.com.cn".toList ∨
      ∃ region suffix, suffix ∈ suffixes ∧ host = "sns.".toList ++ region ++ suffix := by
  obtain ⟨hfront, suffix, hsuffix, hback⟩ := h
  obtain ⟨region, hregion⟩ | ⟨shared, rest, hne, hshared, hsplit, rfl⟩ :=
    between_or_overlap hfront hback
  · exact .inr (.inr ⟨region, suffix, hsuffix, hregion⟩)
  · have htails : shared ∈ ["sns.".toList, "ns.".toList, "s.".toList, ".".toList, []] :=
      (List.mem_tails _ _).mpr hshared
    have hhead : suffix.head? = some '.' := by
      rcases List.mem_cons.mp hsuffix with rfl | hsuffix
      · rfl
      · rw [List.mem_singleton.mp hsuffix]
        rfl
    rw [hsplit] at hhead
    have hdot : shared = ['.'] := by
      simp only [List.mem_cons, List.not_mem_nil, or_false] at htails
      rcases htails with rfl | rfl | rfl | rfl | rfl
      · exact absurd hhead (by simp)
      · exact absurd hhead (by simp)
      · exact absurd hhead (by simp)
      · rfl
      · exact absurd rfl hne
    subst hdot
    rcases List.mem_cons.mp hsuffix with hcom | hcn
    · rw [hcom] at hsplit
      obtain rfl : "amazonaws.com".toList = rest := List.tail_eq_of_cons_eq hsplit
      exact .inl rfl
    · rw [List.mem_singleton.mp hcn] at hsplit
      obtain rfl : "amazonaws.com.cn".toList = rest := List.tail_eq_of_cons_eq hsplit
      exact .inr (.inl rfl)

lemma resembles_of_eq {host region suffix : List Char} (hsuffix : suffix ∈ suffixes)
    (h : host = "sns.".toList ++ region ++ suffix) : Resembles host := by
  subst h
  refine ⟨?_, suffix, hsuffix, List.suffix_append _ _⟩
  rw [List.append_assoc]
  exact List.prefix_append _ _

/-- The two ends end in different characters. -/
lemma suffix_unique {front front' suffix suffix' : List Char} (hs : suffix ∈ suffixes)
    (hs' : suffix' ∈ suffixes) (h : front ++ suffix = front' ++ suffix') : suffix = suffix' := by
  have hlast := congrArg List.getLast? h
  simp only [suffixes, List.mem_cons, List.not_mem_nil, or_false] at hs hs'
  rcases hs with rfl | rfl <;> rcases hs' with rfl | rfl
  · rfl
  · simp at hlast
  · simp at hlast
  · rfl

/-- A host that resembles an official one is one exactly if it is clear. -/
lemma clear_iff {host : List Char} (h : Resembles host) : Clear host ↔
    ∃ region suffix, IsLabel region ∧ suffix ∈ suffixes ∧
      host = "sns.".toList ++ region ++ suffix := by
  constructor
  · intro hclear
    obtain hcom | hcn | ⟨region, suffix, hsuffix, heq⟩ := resembles_cases h
    · exact absurd hcom hclear.apart.1
    · exact absurd hcn hclear.apart.2
    · exact ⟨region, suffix, hclear.label region suffix hsuffix heq, hsuffix, heq⟩
  · rintro ⟨region, suffix, hlabel, hsuffix, rfl⟩
    have hpos : 0 < region.length := List.length_pos_iff.mpr hlabel.1
    have hlength : 14 ≤ suffix.length := by
      simp only [suffixes, List.mem_cons, List.not_mem_nil, or_false] at hsuffix
      rcases hsuffix with rfl | rfl <;> decide
    refine ⟨⟨?_, ?_⟩, ?_⟩
    · intro heq
      have hcount := congrArg List.length heq
      simp at hcount
      omega
    · intro heq
      have hcn : "sns.amazonaws.com.cn".toList = "sns".toList ++ ".amazonaws.com.cn".toList := rfl
      obtain rfl := suffix_unique hsuffix (by simp [suffixes]) (heq.trans hcn)
      have hcount := congrArg List.length heq
      simp at hcount
    · intro region' suffix' hsuffix' heq
      obtain rfl := suffix_unique hsuffix hsuffix' heq
      rw [List.append_assoc, List.append_assoc, List.append_cancel_left_eq,
        List.append_cancel_right_eq] at heq
      rwa [← heq]

/-- The answer for a URL that can be split. -/
lemma allowed_of_split {url : String} {p : Split}
    (h : urlsplit lib (Text.stripChars url.toList) = some p) :
    amazonSnsHostAllowed lib url =
      if p.scheme = "https".toList ∧ truthy p.username = false ∧ truthy p.password = false then
        p.port.map fun port => decide (port ∈ [none, some 443] ∧ Resembles (hostOf lib p))
      else some false := by
  have hends (host : List Char) : (∃ suffix ∈ suffixes, suffix <:+ host) ↔
      ".amazonaws.com".toList <:+ host ∨ ".amazonaws.com.cn".toList <:+ host := by
    simp [suffixes]
  rw [amazonSnsHostAllowed, h]
  simp only [Option.bind_eq_bind, Option.bind_some]
  by_cases hwhole : p.scheme = "https".toList ∧ truthy p.username = false ∧ truthy p.password = false
  · have hnot : ¬ (p.scheme ≠ "https".toList ∨ truthy p.username ∨ truthy p.password) := by
      simpa using hwhole
    rw [if_pos hwhole, if_neg hnot]
    cases hport : p.port with
    | none => rfl
    | some port =>
      simp only [Option.bind_some, Option.map_some, Resembles, hends, hostOf]
      generalize "sns.".toList = front, ".amazonaws.com".toList = com,
        ".amazonaws.com.cn".toList = cn
      by_cases husual : port ∈ [none, some 443]
      · by_cases hfront : front <+: lib.lower ((p.hostname lib).getD [])
        · simp [husual, hfront]
        · simp [husual, hfront]
      · simp [husual]
  · have hnot : p.scheme ≠ "https".toList ∨ truthy p.username ∨ truthy p.password := by
      by_contra hno
      push Not at hno
      exact hwhole (by simpa using hno)
    rw [if_neg hwhole, if_pos hnot]
    rfl

/-- The function answers for a URL, and only official hosts are allowed, exactly if the URL meets the
condition. -/
theorem asClaimed_iff (url : String) : AsClaimed lib url ↔ Meets lib url := by
  cases hsplit : urlsplit lib (Text.stripChars url.toList) with
  | none =>
    have hnone : amazonSnsHostAllowed lib url = none := by
      rw [amazonSnsHostAllowed, hsplit]
      rfl
    simp [AsClaimed, Meets, hnone, hsplit]
  | some p =>
    have hallowed := allowed_of_split lib hsplit
    by_cases hwhole : p.scheme = "https".toList ∧ truthy p.username = false ∧
        truthy p.password = false
    · obtain ⟨hscheme, husername, hpassword⟩ := hwhole
      rw [if_pos ⟨hscheme, husername, hpassword⟩] at hallowed
      constructor
      · rintro ⟨answer, hanswer, himp⟩
        refine ⟨p, hsplit, fun _ _ _ => ?_⟩
        rw [hallowed, Option.map_eq_some_iff] at hanswer
        obtain ⟨port, hport, rfl⟩ := hanswer
        refine ⟨port, hport, fun husual hresembles => ?_⟩
        obtain ⟨p', hp', hofficial⟩ := himp (decide_eq_true ⟨husual, hresembles⟩)
        obtain rfl : p = p' := Option.some.inj (hsplit.symm.trans hp')
        exact ⟨hofficial.userinfo, (clear_iff hresembles).mpr hofficial.host⟩
      · rintro ⟨p', hp', hmeets⟩
        obtain rfl : p = p' := Option.some.inj (hsplit.symm.trans hp')
        obtain ⟨port, hport, hclear⟩ := hmeets hscheme husername hpassword
        refine ⟨_, by rw [hallowed, hport, Option.map_some], fun htrue => ⟨p, hsplit, ?_⟩⟩
        obtain ⟨husual, hresembles⟩ := of_decide_eq_true htrue
        obtain ⟨huserinfo, hhost⟩ := hclear husual hresembles
        refine ⟨hscheme, ?_, huserinfo, (clear_iff hresembles).mp hhost⟩
        simpa [hport] using husual
    · rw [if_neg hwhole] at hallowed
      constructor
      · rintro -
        refine ⟨p, hsplit, fun hscheme husername hpassword => ?_⟩
        exact absurd ⟨hscheme, husername, hpassword⟩ hwhole
      · rintro -
        exact ⟨false, hallowed, fun h => absurd h Bool.false_ne_true⟩

/-- Texts of ASCII, and no addresses in brackets. -/
def plain : Library := ⟨List.map Char.toLower, id, fun _ => false⟩

/-- A bracket that is not closed. -/
theorem not_asClaimed_bracket : ¬ AsClaimed plain "https://[" := by
  rintro ⟨answer, hanswer, -⟩
  have hnone : amazonSnsHostAllowed plain "https://[" = none := by decide +kernel
  rw [hnone] at hanswer
  cases hanswer

example : amazonSnsHostAllowed plain "https://sns.us-east-1.evil.amazonaws.com/a.pem" = some true := by
  decide +kernel

example : amazonSnsHostAllowed plain "https://sns.amazonaws.com/a.pem" = some true := by
  decide +kernel

end CrossPilot.Sns
