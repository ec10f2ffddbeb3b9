import CrossPilot.Database

/-!
# Buyers, by role

What a role sees of the buyer and of the address of an order. The list, the detail, the export and
the labels all show an order through `maskParty`. What a role may not see is absent, not empty.
-/

namespace CrossPilot

/-- The roles every tenant has. A tenant may define more. -/
inductive RoleCode
  | owner | admin | opsManager | opsStaff | purchaser | finance | cs | viewer
  | custom (code : String)
  deriving DecidableEq

namespace OrderPrivacy

/-- The roles that see everything. -/
def full : List RoleCode := [.owner, .admin]

/-- The roles that ship. -/
def ship : List RoleCode := [.opsManager, .opsStaff]

/-- The roles that see where an order goes, but not to whom. -/
def region : List RoleCode := [.finance]

/-- The roles that talk to buyers. -/
def contact : List RoleCode := [.cs]

end OrderPrivacy

/-! ### Texts -/

/-- `payload.get(key)` of a column that may hold no object. -/
def field (payload : Option TextMap) (key : String) : Option String :=
  (payload.getD []).lookup key

/-- `_text`, and `_clean_str`: without the blanks around it, and absent if nothing is left. -/
def cleanText (value : Option String) : Option String :=
  match value with
  | none => none
  | some text => if Text.strip text = "" then none else some (Text.strip text)

/-- `a or b`. -/
def orElseText (a b : Option String) : Option String :=
  if a = none ∨ a = some "" then b else a

/-- The first character of a name, and a star for each other. -/
def maskNameInitial (name : Option String) : Option String :=
  match name with
  | none => none
  | some text =>
    match text.toList with
    | [] => none
    | c :: rest => some (String.ofList (c :: List.replicate (max rest.length 1) '*'))

/-- A phone number without its four middle digits. A short one is hidden altogether. -/
def maskPhoneMiddle (phone : Option String) : Option String :=
  match phone with
  | none => none
  | some text =>
    if text = "" then none
    else
      let digitAt := (text.toList.zipIdx.filter fun p => Text.isDigit p.1).map Prod.snd
      if digitAt.length < 7 then some (String.ofList (List.replicate text.length '*'))
      else
        let start := (digitAt.length - 4) / 2
        let hidden := (digitAt.drop start).take 4
        some (String.ofList (text.toList.zipIdx.map fun p => if p.2 ∈ hidden then '*' else p.1))

/-! ### Parties -/

/-- What is shown of a buyer. -/
structure PartyView where
  name : Option String := none
  phone : Option String := none
  country : Option String := none
  deriving DecidableEq

/-- What is shown of an address. -/
structure AddressView where
  name : Option String := none
  phone : Option String := none
  country : Option String := none
  state : Option String := none
  city : Option String := none
  line1 : Option String := none
  postalCode : Option String := none
  deriving DecidableEq

def maskParty (roleCode : RoleCode) (buyer shipTo : Option TextMap) : PartyView × AddressView :=
  let name := cleanText (field buyer "name")
  let phone := cleanText (orElseText (field buyer "phone") (field shipTo "phone"))
  let country := cleanText (orElseText (field buyer "country") (field shipTo "country"))
  let state := cleanText (field shipTo "state")
  let city := cleanText (field shipTo "city")
  let line1 := cleanText (field shipTo "line1")
  let postal := cleanText (orElseText (field shipTo "postal_code") (field shipTo "postal"))
  if roleCode ∈ OrderPrivacy.full then
    (⟨name, phone, country⟩, ⟨name, phone, country, state, city, line1, postal⟩)
  else if roleCode ∈ OrderPrivacy.ship then
    let shown := maskNameInitial name
    (⟨shown, phone, country⟩, ⟨shown, phone, country, state, city, line1, postal⟩)
  else if roleCode ∈ OrderPrivacy.region then
    (⟨none, none, country⟩, ⟨none, none, country, state, city, none, none⟩)
  else if roleCode ∈ OrderPrivacy.contact then
    (⟨name, maskPhoneMiddle phone, country⟩,
      ⟨name, maskPhoneMiddle phone, country, none, none, none, none⟩)
  else ({}, {})

end CrossPilot
