import CrossPilot.Lib.DigitStrings

/-!
# Splitting URLs

`urllib.parse.urlsplit` as far as the scheme and the authority go, and what `SplitResult` reads in the
authority. The tables of Unicode and the grammar of addresses in brackets are parameters.
-/

namespace UrlSplit

/-- What the module takes from elsewhere. -/
structure Library where
  /-- `str.lower`. -/
  lower : List Char → List Char
  /-- `unicodedata.normalize` to the form NFKC. -/
  nfkc : List Char → List Char
  /-- Whether an authority with both brackets has an address between them, and nothing beside it. -/
  bracketed : List Char → Bool

/-- What comes before the first of these characters, and what follows it. -/
def partition (c : Char) (cs : List Char) : List Char × List Char :=
  (cs.takeWhile (· ≠ c), (cs.dropWhile (· ≠ c)).tail)

/-- What comes before the last of these characters, and what follows it. Without one all of the text
follows. -/
def rpartition (c : Char) (cs : List Char) : List Char × List Char :=
  (((cs.reverse.dropWhile (· ≠ c)).tail).reverse, (cs.reverse.takeWhile (· ≠ c)).reverse)

structure Split where
  scheme : List Char
  netloc : List Char
  deriving DecidableEq

def isSchemeChar (c : Char) : Bool := c.isAlphanum || c ∈ ['+', '-', '.']

/-- The scheme in lower case, and the rest. -/
def splitScheme (url : List Char) : List Char × List Char :=
  let front := url.takeWhile (· ≠ ':')
  if ':' ∈ url ∧ (front.head?.any Char.isAlpha) ∧ front.all isSchemeChar then
    (front.map Char.toLower, url.drop (front.length + 1))
  else ([], url)

/-- The authority behind two slashes. -/
def splitNetloc (url : List Char) : List Char :=
  if ['/', '/'] <+: url then (url.drop 2).takeWhile (· ∉ ['/', '?', '#']) else []

/-- There are brackets in the authority, but not around an address. -/
def misplaced (lib : Library) (netloc : List Char) : Bool :=
  if '[' ∈ netloc ∧ ']' ∈ netloc then !lib.bracketed netloc
  else '[' ∈ netloc ∨ ']' ∈ netloc

/-- A character of the authority becomes one that separates the parts of a URL. -/
def expands (lib : Library) (netloc : List Char) : Bool :=
  let n := netloc.filter (· ∉ ['@', ':', '#', '?'])
  netloc.any (128 ≤ ·.toNat) && lib.nfkc n ≠ n && (lib.nfkc n).any (· ∈ ['/', '?', '#', '@', ':'])

/-- `urlsplit`. `none` is a `ValueError`. -/
def urlsplit (lib : Library) (url : List Char) : Option Split :=
  let url := (url.dropWhile (·.toNat ≤ 32)).filter (· ∉ ['\t', '\r', '\n'])
  let parts := splitScheme url
  let netloc := splitNetloc parts.2
  if misplaced lib netloc || expands lib netloc then none else some ⟨parts.1, netloc⟩

namespace Split

variable (p : Split)

/-- The user name and the password. Either may be missing. -/
def userinfo : Option (List Char) × Option (List Char) :=
  if '@' ∈ p.netloc then
    let info := (rpartition '@' p.netloc).1
    (some (partition ':' info).1, if ':' ∈ info then some (partition ':' info).2 else none)
  else (none, none)

def username : Option (List Char) := p.userinfo.1

def password : Option (List Char) := p.userinfo.2

/-- The host and the port as they are written. -/
def hostinfo : List Char × List Char :=
  let info := (rpartition '@' p.netloc).2
  if '[' ∈ info then
    let bracketed := (partition '[' info).2
    ((partition ']' bracketed).1, (partition ':' (partition ']' bracketed).2).2)
  else partition ':' info

/-- The host in lower case, but for the zone of an address. -/
def hostname (lib : Library) : Option (List Char) :=
  let host := p.hostinfo.1
  if host = [] then none
  else some (lib.lower (partition '%' host).1 ++ host.dropWhile (· ≠ '%'))

/-- `int` of a text of ASCII digits, which takes only so many of them. -/
def toInt (digits : List Char) : Option ℕ :=
  if 4300 < digits.length then none else some (DigitStrings.value digits)

/-- The port. `none` is a `ValueError`, `some none` a missing port. -/
def port : Option (Option ℕ) :=
  let text := p.hostinfo.2
  if text = [] then some none
  else if text.all Char.isDigit then
    match toInt text with
    | some n => if n ≤ 65535 then some (some n) else none
    | none => none
  else none

end Split

end UrlSplit
