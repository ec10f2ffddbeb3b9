import CrossPilot.Compliance.Findings

/-!
# What the check of the catalogue lists

The check of the catalogue is a list in two parts: what the rules ask for, and what else has run out or
soon will. For a SKU, a market and the certificates that are required there the first part is what
publishing would find, and the second adds nothing (`catalogFindings_eq`).
-/

namespace CrossPilot.Compliance

open Table

/-! ### Findings with a key -/

/-- The SKU, the market, the certificate and the code, of a finding that has all of them. -/
def PublishFinding.key (f : PublishFinding) : Option (ℕ × String × String × Code) :=
  match f.skuId, f.market, f.certType with
  | some skuId, some market, some certType => some (skuId, market, certType, f.code)
  | _, _, _ => none

lemma PublishFinding.key_eq_some {f : PublishFinding} {k : ℕ × String × String × Code}
    (h : f.key = some k) : f.skuId = some k.1 ∧ f.market = some k.2.1 ∧
      f.certType = some k.2.2.1 ∧ f.code = k.2.2.2 := by
  unfold key at h
  split at h
  next hsku hmarket hcert =>
    cases h
    exact ⟨hsku, hmarket, hcert, rfl⟩
  · simp at h

/-- Findings that are listed and covered. -/
def Listed.extend (s : Listed) (fs : List PublishFinding) : Listed where
  findings := s.findings ++ fs
  covered := s.covered ∪ (fs.filterMap PublishFinding.key).toFinset

namespace Listed

variable {s : Listed}

@[simp] lemma extend_nil : s.extend [] = s := by simp [extend]

lemma extend_append (fs gs : List PublishFinding) :
    (s.extend fs).extend gs = s.extend (fs ++ gs) := by
  simp [extend, List.toFinset_append, Finset.union_assoc]

/-- A loop that extends the list at each turn. -/
lemma foldl_extend {α : Type} {f : Listed → α → Listed} {g : α → List PublishFinding}
    {xs : List α} (h : ∀ x ∈ xs, ∀ s, f s x = s.extend (g x)) (s : Listed) :
    xs.foldl f s = s.extend (xs.flatMap g) := by
  induction xs generalizing s with
  | nil => simp
  | cons x rest ih =>
    rw [List.foldl_cons, h x (by simp), ih fun y hy => h y (by simp [hy]), extend_append,
      List.flatMap_cons]

lemma cover_eq_extend {skuId : ℕ} {market : String} {item : PublishFinding}
    (hsku : item.skuId = some skuId) (hmarket : item.market = some market) :
    s.cover skuId market item = s.extend [item] := by
  cases hcert : item.certType <;>
    simp [cover, extend, PublishFinding.key, hsku, hmarket, hcert]

lemma append_eq_extend {item : PublishFinding} (h : item.key = none) :
    s.append item = s.extend [item] := by
  simp [append, extend, h]

end Listed

/-! ### One SKU in one market -/

section

variable {market : String} {required : Finset String} {heldUntil heldUntil' : String → Option Day}
  {today : Day} {spuId skuId : Option ℕ}

lemma mem_inOrder {texts : Finset String} {text : String} : text ∈ inOrder texts ↔ text ∈ texts :=
  Finset.mem_sort _

lemma nodup_inOrder (texts : Finset String) : (inOrder texts).Nodup := Finset.sort_nodup _ _

/-- A finding with the SKU and the SPU it is about. -/
def PublishFinding.about (f : PublishFinding) (spuId skuId : Option ℕ) : PublishFinding :=
  { f with spuId := spuId, skuId := skuId }

lemma certFindings_eq_map (market : String) (required : Finset String)
    (heldUntil : String → Option Day) (today : Day) (spuId skuId : Option ℕ) :
    certFindings market required heldUntil today spuId skuId =
      (certFindings market required heldUntil today).map fun f => f.about spuId skuId := by
  simp only [certFindings, List.map_append, List.map_map, List.map_filterMap]
  congr 1
  apply List.filterMap_congr
  intro t _
  cases heldUntil t with
  | none => rfl
  | some e =>
    simp only
    split_ifs <;> rfl

/-- Only the required certificates are looked up. -/
lemma certFindings_congr (h : ∀ t ∈ required, heldUntil t = heldUntil' t) :
    certFindings market required heldUntil today spuId skuId =
      certFindings market required heldUntil' today spuId skuId := by
  have hgaps : certGaps required heldUntil today = certGaps required heldUntil' today := by
    apply List.filterMap_congr
    intro t ht
    rw [h t (mem_inOrder.mp ht)]
  rw [certFindings, certFindings, hgaps]
  congr 1
  apply List.filterMap_congr
  intro t ht
  rw [h t (mem_inOrder.mp ht)]

/-- A warning is given up to sixty days ahead. -/
lemma isWarnWindow_iff {e today : ℤ} :
    isWarnWindow (certWindow e today) = true ↔ today ≤ e ∧ e ≤ today + 60 := by
  unfold isWarnWindow certWindow
  simp only [Bool.decide_or, Bool.or_eq_true, decide_eq_true_eq]
  split_ifs with h₀ h₇ h₃₀ h₆₀ <;> simp <;> omega

lemma certWindow_eq_expired_iff {e today : ℤ} :
    certWindow e today = some .expired ↔ e < today := by
  unfold certWindow
  simp only
  split_ifs with h₀ h₇ h₃₀ h₆₀ <;> simp <;> omega

/-- What is found of one required certificate. -/
inductive Found (market : String) (heldUntil : String → Option Day) (today : Day)
    (spuId skuId : Option ℕ) (t : String) : PublishFinding → Prop
  | missing (h : heldUntil t = none) :
      Found market heldUntil today spuId skuId t ⟨.l1, .certMissing, market, t, none, spuId, skuId⟩
  | expired (e : Day) (h : heldUntil t = some e) (he : e < today) :
      Found market heldUntil today spuId skuId t ⟨.l1, .certExpired, market, t, none, spuId, skuId⟩
  | expiring (e : Day) (h : heldUntil t = some e) (hlow : today ≤ e) (hhigh : e ≤ today + 60) :
      Found market heldUntil today spuId skuId t
        ⟨.l2, .certExpiring, market, t, some (e - today : ℤ), spuId, skuId⟩

/-- What is lacking of a certificate. -/
def lacking (market : String) (heldUntil : String → Option Day) (today : Day)
    (spuId skuId : Option ℕ) (t : String) : Option PublishFinding :=
  match heldUntil t with
  | none => some ⟨.l1, .certMissing, market, t, none, spuId, skuId⟩
  | some e => if e < today then some ⟨.l1, .certExpired, market, t, none, spuId, skuId⟩ else none

/-- What there is to say of a certificate that will soon be lacking. -/
def warning (market : String) (heldUntil : String → Option Day) (today : Day)
    (spuId skuId : Option ℕ) (t : String) : Option PublishFinding :=
  match heldUntil t with
  | none => none
  | some e =>
    if today ≤ e ∧ e ≤ today + 60 then
      some ⟨.l2, .certExpiring, market, t, some (e - today : ℤ), spuId, skuId⟩
    else none

lemma lacking_eq_some_iff {t : String} {f : PublishFinding} :
    lacking market heldUntil today spuId skuId t = some f ↔
      Found market heldUntil today spuId skuId t f ∧ f.code ≠ .certExpiring := by
  unfold lacking
  constructor
  · intro h
    split at h
    next hheld =>
      cases h
      exact ⟨.missing hheld, by simp⟩
    next e hheld =>
      split_ifs at h with he
      cases h
      exact ⟨.expired e hheld he, by simp⟩
  · rintro ⟨hfound, hcode⟩
    cases hfound with
    | missing h => rw [h]
    | expired e h he => simp [h, he]
    | expiring e h hlow hhigh => simp at hcode

lemma warning_eq_some_iff {t : String} {f : PublishFinding} :
    warning market heldUntil today spuId skuId t = some f ↔
      Found market heldUntil today spuId skuId t f ∧ f.code = .certExpiring := by
  unfold warning
  constructor
  · intro h
    split at h
    · simp at h
    next e hheld =>
      split_ifs at h with he
      cases h
      exact ⟨.expiring e hheld he.1 he.2, rfl⟩
  · rintro ⟨hfound, hcode⟩
    cases hfound with
    | missing h => simp at hcode
    | expired e h he => simp at hcode
    | expiring e h hlow hhigh => simp [h, hlow, hhigh]

/-- First what is lacking, then what soon will be. -/
lemma certFindings_eq : certFindings market required heldUntil today spuId skuId =
    (inOrder required).filterMap (lacking market heldUntil today spuId skuId) ++
      (inOrder required).filterMap (warning market heldUntil today spuId skuId) := by
  rw [certFindings, certGaps, List.map_filterMap]
  congr 1
  · apply List.filterMap_congr
    intro t _
    rw [lacking]
    cases heldUntil t with
    | none => rfl
    | some e =>
      simp only
      split_ifs <;> rfl
  · apply List.filterMap_congr
    intro t _
    rw [warning]
    cases heldUntil t with
    | none => rfl
    | some e =>
      have hwarn : (isWarnWindow (certWindow e today) = true ∧ e - today ≤ 60) ↔
          today ≤ e ∧ e ≤ today + 60 := by
        rw [isWarnWindow_iff, sub_le_iff_le_add', and_assoc, and_self]
      simp only [hwarn]

lemma mem_certFindings {f : PublishFinding} :
    f ∈ certFindings market required heldUntil today spuId skuId ↔
      ∃ t ∈ required, Found market heldUntil today spuId skuId t f := by
  simp only [certFindings_eq, List.mem_append, List.mem_filterMap, mem_inOrder,
    lacking_eq_some_iff, warning_eq_some_iff]
  constructor
  · rintro (⟨t, ht, hfound, -⟩ | ⟨t, ht, hfound, -⟩) <;> exact ⟨t, ht, hfound⟩
  · rintro ⟨t, ht, hfound⟩
    by_cases hcode : f.code = .certExpiring
    · exact .inr ⟨t, ht, hfound, hcode⟩
    · exact .inl ⟨t, ht, hfound, hcode⟩

lemma Found.key {t : String} {f : PublishFinding} {spu sku : ℕ}
    (h : Found market heldUntil today (some spu) (some sku) t f) :
    f.key = some (sku, market, t, f.code) := by
  cases h <;> rfl

/-- No certificate is listed twice for the same reason. -/
lemma nodup_certFindings {spu sku : ℕ} : ((certFindings market required heldUntil today (some spu)
    (some sku)).filterMap PublishFinding.key).Nodup := by
  have hkey {t : String} {f : PublishFinding} {k : ℕ × String × String × Code}
      (hf : Found market heldUntil today (some spu) (some sku) t f) (hk : f.key = some k) :
      k = (sku, market, t, f.code) := by
    rw [hf.key, Option.some.injEq] at hk
    exact hk.symm
  rw [certFindings_eq, List.filterMap_append, List.filterMap_filterMap, List.filterMap_filterMap,
    List.nodup_append]
  refine ⟨(nodup_inOrder required).filterMap ?_, (nodup_inOrder required).filterMap ?_, ?_⟩
  · intro t t' k ht ht'
    obtain ⟨f, hf, hk⟩ := Option.bind_eq_some_iff.mp ht
    obtain ⟨g, hg, hk'⟩ := Option.bind_eq_some_iff.mp ht'
    have hf := hkey (lacking_eq_some_iff.mp hf).1 hk
    have hg := hkey (lacking_eq_some_iff.mp hg).1 hk'
    exact congrArg (fun k => k.2.2.1) (hf.symm.trans hg)
  · intro t t' k ht ht'
    obtain ⟨f, hf, hk⟩ := Option.bind_eq_some_iff.mp ht
    obtain ⟨g, hg, hk'⟩ := Option.bind_eq_some_iff.mp ht'
    have hf := hkey (warning_eq_some_iff.mp hf).1 hk
    have hg := hkey (warning_eq_some_iff.mp hg).1 hk'
    exact congrArg (fun k => k.2.2.1) (hf.symm.trans hg)
  · -- a certificate that is lacking is not about to expire
    intro k hk k' hk' heq
    obtain ⟨t, -, ht⟩ := List.mem_filterMap.mp hk
    obtain ⟨t', -, ht'⟩ := List.mem_filterMap.mp hk'
    obtain ⟨f, hf, hk⟩ := Option.bind_eq_some_iff.mp ht
    obtain ⟨g, hg, hk'⟩ := Option.bind_eq_some_iff.mp ht'
    obtain ⟨hf, hlacking⟩ := lacking_eq_some_iff.mp hf
    obtain ⟨hg, hwarning⟩ := warning_eq_some_iff.mp hg
    have hcode := congrArg (fun k => k.2.2.2) ((hkey hf hk).symm.trans (heq.trans (hkey hg hk')))
    exact hlacking (hcode.trans hwarning)

end

/-! ### The latest certificates -/

/-- The last day of any certificate of the SKU and the type in the market. -/
def latestExpiry (certs : List CertFact) (skuId : ℕ) (market certType : String) : Option Day :=
  ((certs.filter fun cert => cert.skuId = skuId ∧ cert.market = market ∧
    cert.certType = certType).map CertFact.expiresOn).max?

lemma max?_concat (days : List ℤ) (day : ℤ) :
    (days ++ [day]).max? = some (match days.max? with
      | none => day
      | some latest => max latest day) := by
  cases days with
  | nil => rfl
  | cons first rest =>
    rw [List.cons_append, List.max?_cons', List.max?_cons', List.foldl_append]
    rfl

lemma latestExpiry_concat (certs : List CertFact) (cert : CertFact) (skuId : ℕ)
    (market certType : String) : latestExpiry (certs ++ [cert]) skuId market certType =
      if (cert.skuId, cert.market, cert.certType) = (skuId, market, certType) then
        some (match latestExpiry certs skuId market certType with
          | none => cert.expiresOn
          | some latest => max latest cert.expiresOn)
      else latestExpiry certs skuId market certType := by
  rw [latestExpiry, List.filter_append, List.map_append]
  simp only [Prod.mk.injEq]
  split_ifs with hcert
  · have hone : [cert].filter (fun cert => cert.skuId = skuId ∧ cert.market = market ∧
        cert.certType = certType) = [cert] := by simp [hcert]
    rw [hone]
    exact max?_concat _ _
  · have hnone : [cert].filter (fun cert => cert.skuId = skuId ∧ cert.market = market ∧
        cert.certType = certType) = [] := by simp [hcert]
    rw [hnone, List.map_nil, List.append_nil, latestExpiry]

lemma get_latestCerts (certs : List CertFact) (skuId : ℕ) (market certType : String) :
    (latestCerts certs).get (skuId, market, certType) =
      latestExpiry certs skuId market certType := by
  induction certs using List.reverseRecOn with
  | nil => rfl
  | append_singleton certs cert ih =>
    have hstep : latestCerts (certs ++ [cert]) = hold (latestCerts certs) cert := by
      simp [latestCerts]
    rw [hstep, hold, latestExpiry_concat]
    split_ifs with hcert
    · rw [hcert, ih]
      cases hlatest : latestExpiry certs skuId market certType with
      | none => simp
      | some current =>
        by_cases hlt : current < cert.expiresOn
        · simp [hlt, max_eq_right hlt.le]
        · simp [hlt, ih, hlatest, max_eq_left (not_lt.mp hlt)]
    · split
      · rw [Dict.get_set, if_neg hcert, ih]
      · split_ifs
        · rw [Dict.get_set, if_neg hcert, ih]
        · exact ih

/-! ### What the rules ask for -/

section

variable (held : Dict (ℕ × String × String) Day) (today : Day)
  (requiredBy : Dict (String × String) (Finset String))

/-- What the rules of a market ask of a SKU. -/
def marketFindings (category : String) (spuId skuId : ℕ) (market : String) :
    List PublishFinding :=
  match requiredBy.get (market, category) with
  | none => []
  | some required =>
    certFindings market required
      (fun certType => if certType ∈ required then held.get (skuId, market, certType) else none)
      today spuId skuId

def skuFindings (category : String) (spuId : ℕ) (sku : SkuFact) : List PublishFinding :=
  (marketsOf requiredBy category).flatMap
    (marketFindings held today requiredBy category spuId sku.skuId)

def spuFindings (skus : List SkuFact) (spu : SpuFact) : List PublishFinding :=
  (if spu.hsMarkets = ∅ then [⟨.l1, .hsMissing, none, none, none, spu.spuId, none⟩] else []) ++
    match spu.categoryCode with
    | none => []
    | some category =>
      if category = "" then []
      else (skus.filter fun sku => sku.spuId = spu.spuId).flatMap
        (skuFindings held today requiredBy category spu.spuId)

variable {held today requiredBy}

lemma coverMarket_eq_extend (category : String) (spuId skuId : ℕ) (market : String) (s : Listed) :
    coverMarket held today requiredBy category spuId skuId s market =
      s.extend (marketFindings held today requiredBy category spuId skuId market) := by
  rw [coverMarket, marketFindings]
  cases requiredBy.get (market, category) with
  | none => simp
  | some required =>
    have hcover : ∀ f ∈ certFindings market required
        (fun certType => if certType ∈ required then held.get (skuId, market, certType) else none)
        today spuId skuId, ∀ s : Listed, s.cover skuId market f = s.extend [f] := by
      intro f hf s
      obtain ⟨t, -, hfound⟩ := mem_certFindings.mp hf
      cases hfound <;> exact Listed.cover_eq_extend rfl rfl
    simp only
    rw [Listed.foldl_extend hcover, List.flatMap_singleton']

lemma coverSpu_eq_extend (skus : List SkuFact) (s : Listed) (spu : SpuFact) :
    coverSpu held today requiredBy (skus.foldl (Groups.place SkuFact.spuId) []) s spu =
      s.extend (spuFindings held today requiredBy skus spu) := by
  have hskus : skusOf (skus.foldl (Groups.place SkuFact.spuId) []) spu.spuId =
      skus.filter fun sku => sku.spuId = spu.spuId := by
    rw [skusOf, Groups.foldl_place, Groups.find?_groups]
    simp [Groups.bucket]
  have hbinding : (if spu.hsMarkets = ∅ then
      s.append ⟨.l1, .hsMissing, none, none, none, spu.spuId, none⟩ else s) =
      s.extend (if spu.hsMarkets = ∅ then
        [⟨.l1, .hsMissing, none, none, none, spu.spuId, none⟩] else []) := by
    split_ifs
    · exact Listed.append_eq_extend rfl
    · exact Listed.extend_nil.symm
  have hsku (category : String) : ∀ sku ∈ skus.filter (fun sku => sku.spuId = spu.spuId),
      ∀ s : Listed, (marketsOf requiredBy category).foldl
        (coverMarket held today requiredBy category spu.spuId sku.skuId) s =
        s.extend (skuFindings held today requiredBy category spu.spuId sku) :=
    fun sku _ s => Listed.foldl_extend (fun market _ s =>
      coverMarket_eq_extend category spu.spuId sku.skuId market s) s
  rw [coverSpu, spuFindings, hbinding, hskus]
  cases spu.categoryCode with
  | none => simp
  | some category =>
    simp only
    split_ifs
    all_goals try rw [Listed.foldl_extend (hsku category), Listed.extend_append]
    all_goals simp

/-! ### What else has run out -/

/-- A certificate that is listed because no rule has covered it. -/
def late (today : Day) (skuSpu : Dict ℕ ℕ) (covered : Finset (ℕ × String × String × Code))
    (e : (ℕ × String × String) × Day) : Option PublishFinding :=
  let (skuId, market, certType) := e.1
  match skuSpu.get skuId with
  | none => none
  | some spuId =>
    if e.2 < today then
      if (skuId, market, certType, Code.certExpired) ∈ covered then none
      else some ⟨.l1, .certExpired, market, certType, none, spuId, skuId⟩
    else if e.2 ≤ today + 60 then
      if (skuId, market, certType, Code.certExpiring) ∈ covered then none
      else some ⟨.l2, .certExpiring, market, certType, some (e.2 - today : ℤ), spuId, skuId⟩
    else none

lemma listHeld_eq (skuSpu : Dict ℕ ℕ) (s : Listed) (e : (ℕ × String × String) × Day) :
    listHeld today skuSpu s e =
      { s with findings := s.findings ++ (late today skuSpu s.covered e).toList } := by
  obtain ⟨⟨skuId, market, certType⟩, expiresOn⟩ := e
  simp only [listHeld, late]
  cases skuSpu.get skuId with
  | none => simp
  | some spuId =>
    simp only [certWindow_eq_expired_iff, isWarnWindow_iff]
    by_cases hexpired : expiresOn < today
    · by_cases hcovered : (skuId, market, certType, Code.certExpired) ∈ s.covered <;>
        simp [hexpired, hcovered, Listed.append]
    · by_cases hwarn : expiresOn ≤ today + 60
      · by_cases hcovered : (skuId, market, certType, Code.certExpiring) ∈ s.covered <;>
          simp [hexpired, not_lt.mp hexpired, hwarn, hcovered, Listed.append]
      · simp [hexpired, hwarn]

lemma foldl_listHeld (skuSpu : Dict ℕ ℕ) (s : Listed) (es : List ((ℕ × String × String) × Day)) :
    (es.foldl (listHeld today skuSpu) s).findings =
      s.findings ++ es.filterMap (late today skuSpu s.covered) := by
  induction es generalizing s with
  | nil => simp
  | cons e rest ih =>
    rw [List.foldl_cons, ih, listHeld_eq]
    cases h : late today skuSpu s.covered e <;> simp [h]

/-- What is listed of a certificate that no rule has covered. -/
lemma late_eq_some {skuSpu : Dict ℕ ℕ} {covered : Finset (ℕ × String × String × Code)}
    {skuId : ℕ} {market certType : String} {e : Day} {f : PublishFinding}
    (h : late today skuSpu covered ((skuId, market, certType), e) = some f) :
    f.skuId = some skuId ∧ f.market = some market ∧ f.certType = some certType ∧
      (skuId, market, certType, f.code) ∉ covered ∧
      (e < today ∧ f.code = .certExpired ∨ today ≤ e ∧ e ≤ today + 60 ∧ f.code = .certExpiring) := by
  simp only [late] at h
  split at h
  · simp at h
  · split_ifs at h with hexpired hcovered hwarn hcovered
    · cases h
      exact ⟨rfl, rfl, rfl, hcovered, .inl ⟨hexpired, rfl⟩⟩
    · cases h
      exact ⟨rfl, rfl, rfl, hcovered, .inr ⟨not_lt.mp hexpired, hwarn, rfl⟩⟩

end

/-! ### The whole catalogue -/

section

variable (spus : List SpuFact) (skus : List SkuFact) (certs : List CertFact) (rules : List RuleFact)
  (today : Day)

def rulesBy : Dict (String × String) (Finset String) :=
  rules.foldl (fun d rule => d.addTo (rule.market, rule.categoryCode) rule.certType) Dict.empty

/-- What the rules ask for in the whole catalogue. -/
def ruledFindings : List PublishFinding :=
  spus.flatMap (spuFindings (latestCerts certs) today (rulesBy rules) skus)

def lateFindings : List PublishFinding :=
  (latestCerts certs).entries.filterMap (late today
    (skus.foldl (fun d sku => d.set sku.skuId sku.spuId) Dict.empty)
    ((ruledFindings spus skus certs rules today).filterMap PublishFinding.key).toFinset)

lemma catalogFindings_eq_append : catalogFindings spus skus certs rules today =
    ruledFindings spus skus certs rules today ++ lateFindings spus skus certs rules today := by
  have hruled : spus.foldl (coverSpu (latestCerts certs) today (rulesBy rules)
      (skus.foldl (Groups.place SkuFact.spuId) [])) {} =
      Listed.extend {} (ruledFindings spus skus certs rules today) :=
    Listed.foldl_extend (fun spu _ s => coverSpu_eq_extend skus s spu) {}
  simp only [catalogFindings]
  rw [← rulesBy, hruled, foldl_listHeld]
  simp [Listed.extend, lateFindings]

/-- The certificates that the rules of a market ask for in a category. -/
def requiredTypes (market category : String) : Finset String :=
  ((rules.filter fun rule => rule.market = market ∧ rule.categoryCode = category).map
    RuleFact.certType).toFinset

lemma get_rulesBy (market category : String) : (rulesBy rules).get (market, category) =
    if ∃ rule ∈ rules, rule.market = market ∧ rule.categoryCode = category then
      some (requiredTypes rules market category)
    else none := by
  rw [rulesBy, Dict.get_foldl_addTo (fun rule => (rule.market, rule.categoryCode)) RuleFact.certType]
  simp only [Prod.mk.injEq, requiredTypes]

lemma mem_marketsOf {market category : String} : market ∈ marketsOf (rulesBy rules) category ↔
    ∃ rule ∈ rules, rule.market = market ∧ rule.categoryCode = category := by
  simp only [marketsOf, mem_inOrder, List.mem_toFinset, List.mem_map, List.mem_filter,
    decide_eq_true_eq, Prod.exists]
  constructor
  · rintro ⟨_, _, required, ⟨hmem, rfl⟩, rfl⟩
    rw [Dict.mem_entries_iff, get_rulesBy] at hmem
    split_ifs at hmem with hrule
    exact hrule
  · intro hrule
    refine ⟨market, category, requiredTypes rules market category, ⟨?_, rfl⟩, rfl⟩
    rw [Dict.mem_entries_iff, get_rulesBy, if_pos hrule]

/-- One element of a list without repetition has all that is looked for. -/
lemma filter_flatMap_of_only {α β : Type} {g : α → List β} {p : β → Bool} {xs : List α} {x : α}
    (hn : xs.Nodup) (hx : x ∈ xs) (hother : ∀ y ∈ xs, y ≠ x → ∀ b ∈ g y, p b = false) :
    (xs.flatMap g).filter p = (g x).filter p := by
  induction xs with
  | nil => simp at hx
  | cons y rest ih =>
    obtain ⟨hnot, hrest⟩ := List.nodup_cons.mp hn
    rw [List.flatMap_cons, List.filter_append]
    obtain rfl | hmem := List.mem_cons.mp hx
    · have hnone : (rest.flatMap g).filter p = [] := by
        simp only [List.filter_eq_nil_iff, List.mem_flatMap, Bool.not_eq_true]
        rintro b ⟨z, hz, hb⟩
        exact hother z (by simp [hz]) (fun heq => hnot (heq ▸ hz)) b hb
      rw [hnone, List.append_nil]
    · have hne : y ≠ x := fun heq => hnot (heq ▸ hmem)
      have hnone : (g y).filter p = [] := by
        simpa using hother y (by simp) hne
      rw [hnone, List.nil_append, ih hrest hmem fun z hz => hother z (by simp [hz])]

variable {spus skus certs rules today}

lemma marketFindings_eq {category market : String} (spuId skuId : ℕ)
    (hrule : ∃ rule ∈ rules, rule.market = market ∧ rule.categoryCode = category) :
    marketFindings (latestCerts certs) today (rulesBy rules) category spuId skuId market =
      certFindings market (requiredTypes rules market category) (latestExpiry certs skuId market)
        today spuId skuId := by
  simp only [marketFindings, get_rulesBy, if_pos hrule]
  apply certFindings_congr
  intro t ht
  rw [if_pos ht, get_latestCerts]

lemma mem_marketFindings {category market : String} {spuId skuId : ℕ} {f : PublishFinding}
    (h : f ∈ marketFindings (latestCerts certs) today (rulesBy rules) category spuId skuId market) :
    f.skuId = some skuId ∧ f.market = some market ∧
      ∃ t ∈ requiredTypes rules market category, f.certType = some t := by
  by_cases hrule : ∃ rule ∈ rules, rule.market = market ∧ rule.categoryCode = category
  · rw [marketFindings_eq spuId skuId hrule] at h
    obtain ⟨t, ht, hfound⟩ := mem_certFindings.mp h
    cases hfound <;> exact ⟨rfl, rfl, t, ht, rfl⟩
  · simp [marketFindings, get_rulesBy, hrule] at h

lemma mem_skuFindings {category : String} {spuId : ℕ} {sku : SkuFact} {f : PublishFinding}
    (h : f ∈ skuFindings (latestCerts certs) today (rulesBy rules) category spuId sku) :
    f.skuId = some sku.skuId := by
  obtain ⟨market, -, hf⟩ := List.mem_flatMap.mp h
  exact (mem_marketFindings hf).1

lemma mem_spuFindings {spu : SpuFact} {f : PublishFinding} {skuId : ℕ}
    (h : f ∈ spuFindings (latestCerts certs) today (rulesBy rules) skus spu)
    (hsku : f.skuId = some skuId) : ∃ sku ∈ skus, sku.spuId = spu.spuId ∧ sku.skuId = skuId := by
  rw [spuFindings, List.mem_append] at h
  obtain h | h := h
  · split_ifs at h
    · simp only [List.mem_singleton] at h
      simp [h] at hsku
    · simp at h
  · split at h
    · simp at h
    · split_ifs at h
      · simp at h
      · obtain ⟨sku, hmem, hf⟩ := List.mem_flatMap.mp h
        rw [mem_skuFindings hf, Option.some.injEq] at hsku
        simp only [List.mem_filter, decide_eq_true_eq] at hmem
        exact ⟨sku, hmem.1, hmem.2, hsku⟩

/-- What is asked about: the findings of a SKU in a market that are about required certificates. -/
def isAbout (skuId : ℕ) (market : String) (required : Finset String) (f : PublishFinding) : Bool :=
  f.skuId = some skuId ∧ f.market = some market ∧ ∃ t ∈ required, f.certType = some t

section

variable {sku : SkuFact} {spu : SpuFact} {category market : String}
  (hspus : Keyed SpuFact.spuId spus) (hskus : Keyed SkuFact.skuId skus) (hsku : sku ∈ skus)
  (hspu : spu ∈ spus) (hof : spu.spuId = sku.spuId) (hcategory : spu.categoryCode = some category)
  (hsome : category ≠ "")
  (hrule : ∃ rule ∈ rules, rule.market = market ∧ rule.categoryCode = category)

include hspus hskus hsku hspu hof hcategory hsome hrule

/-- What the rules list of a SKU in a market is what is found there. -/
lemma filter_ruledFindings : (ruledFindings spus skus certs rules today).filter
    (isAbout sku.skuId market (requiredTypes rules market category)) =
      certFindings market (requiredTypes rules market category) (latestExpiry certs sku.skuId market)
        today spu.spuId sku.skuId := by
  have hsame : ∀ sku' ∈ skus, sku'.skuId = sku.skuId → sku' = sku :=
    fun sku' hsku' hid => hskus.eq_of_key_eq hsku' hsku hid
  rw [ruledFindings, filter_flatMap_of_only (List.Nodup.of_map _ hspus) hspu, spuFindings,
    hcategory]
  swap
  · intro spu' hspu' hne f hf
    by_contra habout
    rw [Bool.not_eq_false, isAbout, decide_eq_true_eq] at habout
    obtain ⟨sku', hsku', hof', hid⟩ := mem_spuFindings hf habout.1
    rw [hsame sku' hsku' hid, ← hof] at hof'
    exact hne (hspus.eq_of_key_eq hspu' hspu hof'.symm)
  have hbinding : (if spu.hsMarkets = ∅ then
      [(⟨.l1, .hsMissing, none, none, none, spu.spuId, none⟩ : PublishFinding)] else []).filter
      (isAbout sku.skuId market (requiredTypes rules market category)) = [] := by
    split_ifs <;> simp [isAbout]
  have hmem : sku ∈ skus.filter fun s => s.spuId = spu.spuId := by simp [hsku, hof]
  have hmarkets : (marketsOf (rulesBy rules) category).Nodup := nodup_inOrder _
  simp only [if_neg hsome]
  rw [List.filter_append, hbinding, List.nil_append,
    filter_flatMap_of_only ((List.Nodup.of_map _ hskus).filter _) hmem, skuFindings,
    filter_flatMap_of_only hmarkets ((mem_marketsOf rules).mpr hrule),
    marketFindings_eq _ _ hrule]
  · rw [List.filter_eq_self]
    intro f hf
    rw [← marketFindings_eq _ _ hrule] at hf
    simpa [isAbout] using mem_marketFindings hf
  · intro market' _ hne f hf
    simp [isAbout, (mem_marketFindings hf).2.1, hne]
  · intro sku' hsku' hne f hf
    have hid : sku'.skuId ≠ sku.skuId := fun hid => hne (hsame sku' (List.mem_of_mem_filter hsku') hid)
    simp [isAbout, mem_skuFindings hf, hid]

/-- Nothing is listed late of a certificate that is required. -/
lemma filter_lateFindings : (lateFindings spus skus certs rules today).filter
    (isAbout sku.skuId market (requiredTypes rules market category)) = [] := by
  rw [List.filter_eq_nil_iff]
  intro f hf habout
  simp only [isAbout, decide_eq_true_eq] at habout
  obtain ⟨⟨⟨skuId, market', certType⟩, e⟩, he, hlate⟩ := List.mem_filterMap.mp hf
  obtain ⟨hskuId, hmarket, hcertType, hcovered, hcode⟩ := late_eq_some hlate
  obtain ⟨habout, habout', t, ht, habout''⟩ := habout
  rw [hskuId, Option.some.injEq] at habout
  rw [hmarket, Option.some.injEq] at habout'
  rw [hcertType, Option.some.injEq] at habout''
  subst habout habout' habout''
  rw [Dict.mem_entries_iff, get_latestCerts] at he
  -- the rules have listed it, so it is covered
  have hlisted : ∃ g, Found market' (latestExpiry certs sku.skuId market') today (some spu.spuId)
      (some sku.skuId) certType g ∧ g.code = f.code := by
    obtain ⟨hexpired, hcode⟩ | ⟨hlow, hhigh, hcode⟩ := hcode
    · exact ⟨_, .expired e he hexpired, hcode.symm⟩
    · exact ⟨_, .expiring e he hlow hhigh, hcode.symm⟩
  obtain ⟨g, hfound, hgcode⟩ := hlisted
  have hg := mem_certFindings.mpr ⟨certType, ht, hfound⟩
  rw [← filter_ruledFindings hspus hskus hsku hspu hof hcategory hsome hrule] at hg
  apply hcovered
  rw [List.mem_toFinset, List.mem_filterMap]
  exact ⟨g, List.mem_of_mem_filter hg, by rw [hfound.key, hgcode]⟩

end

/-! ### Nothing is listed twice -/

lemma nodup_skuFindings {category : String} {spuId : ℕ} {sku : SkuFact} :
    ((skuFindings (latestCerts certs) today (rulesBy rules) category spuId sku).filterMap
      PublishFinding.key).Nodup := by
  have hmarkets : (marketsOf (rulesBy rules) category).Nodup := nodup_inOrder _
  rw [skuFindings, List.filterMap_flatMap, List.nodup_flatMap]
  constructor
  · intro market hmarket
    rw [marketFindings_eq _ _ ((mem_marketsOf rules).mp hmarket)]
    exact nodup_certFindings
  · refine hmarkets.imp fun hne k hk hk' => hne ?_
    obtain ⟨f, hf, hkey⟩ := List.mem_filterMap.mp hk
    obtain ⟨g, hg, hkey'⟩ := List.mem_filterMap.mp hk'
    have hmarket := (PublishFinding.key_eq_some hkey).2.1
    have hmarket' := (PublishFinding.key_eq_some hkey').2.1
    rw [(mem_marketFindings hf).2.1, Option.some.injEq] at hmarket
    rw [(mem_marketFindings hg).2.1, Option.some.injEq] at hmarket'
    exact hmarket.trans hmarket'.symm

lemma nodup_spuFindings {spu : SpuFact} (hskus : Keyed SkuFact.skuId skus) :
    ((spuFindings (latestCerts certs) today (rulesBy rules) skus spu).filterMap
      PublishFinding.key).Nodup := by
  have hbinding : (if spu.hsMarkets = ∅ then
      [(⟨.l1, .hsMissing, none, none, none, spu.spuId, none⟩ : PublishFinding)] else []).filterMap
      PublishFinding.key = [] := by
    split_ifs <;> simp [PublishFinding.key]
  rw [spuFindings, List.filterMap_append, hbinding, List.nil_append]
  split
  · simp
  · split_ifs
    · simp
    · rw [List.filterMap_flatMap, List.nodup_flatMap]
      refine ⟨fun sku _ => nodup_skuFindings, ?_⟩
      refine ((List.pairwise_map.mp hskus).sublist List.filter_sublist).imp fun hne k hk hk' => hne ?_
      obtain ⟨f, hf, hkey⟩ := List.mem_filterMap.mp hk
      obtain ⟨g, hg, hkey'⟩ := List.mem_filterMap.mp hk'
      have hsku := (PublishFinding.key_eq_some hkey).1
      have hsku' := (PublishFinding.key_eq_some hkey').1
      rw [mem_skuFindings hf, Option.some.injEq] at hsku
      rw [mem_skuFindings hg, Option.some.injEq] at hsku'
      exact hsku.trans hsku'.symm

lemma nodup_ruledFindings (hspus : Keyed SpuFact.spuId spus) (hskus : Keyed SkuFact.skuId skus) :
    ((ruledFindings spus skus certs rules today).filterMap PublishFinding.key).Nodup := by
  rw [ruledFindings, List.filterMap_flatMap, List.nodup_flatMap]
  refine ⟨fun spu _ => nodup_spuFindings hskus, ?_⟩
  refine (List.pairwise_map.mp hspus).imp fun hne k hk hk' => hne ?_
  obtain ⟨f, hf, hkey⟩ := List.mem_filterMap.mp hk
  obtain ⟨g, hg, hkey'⟩ := List.mem_filterMap.mp hk'
  obtain ⟨sku, hsku, hof, hid⟩ := mem_spuFindings hf (PublishFinding.key_eq_some hkey).1
  obtain ⟨sku', hsku', hof', hid'⟩ := mem_spuFindings hg (PublishFinding.key_eq_some hkey').1
  rw [← hof, ← hof', hskus.eq_of_key_eq hsku hsku' (hid.trans hid'.symm)]

lemma nodup_lateFindings :
    ((lateFindings spus skus certs rules today).filterMap PublishFinding.key).Nodup := by
  rw [lateFindings, List.filterMap_filterMap]
  refine List.pairwise_filterMap.mpr ((List.pairwise_map.mp (latestCerts certs).keyed).imp ?_)
  rintro ⟨⟨skuId, market, certType⟩, e⟩ ⟨⟨skuId', market', certType'⟩, e'⟩ hne k hk k' hk' rfl
  obtain ⟨f, hf, hkey⟩ := Option.bind_eq_some_iff.mp hk
  obtain ⟨g, hg, hkey'⟩ := Option.bind_eq_some_iff.mp hk'
  obtain ⟨hsku, hmarket, hcert, -, -⟩ := late_eq_some hf
  obtain ⟨hsku', hmarket', hcert', -, -⟩ := late_eq_some hg
  obtain ⟨h₁, h₂, h₃, -⟩ := PublishFinding.key_eq_some hkey
  obtain ⟨h₁', h₂', h₃', -⟩ := PublishFinding.key_eq_some hkey'
  apply hne
  simp only [Prod.mk.injEq]
  exact ⟨Option.some.inj (hsku.symm.trans (h₁.trans (h₁'.symm.trans hsku'))),
    Option.some.inj (hmarket.symm.trans (h₂.trans (h₂'.symm.trans hmarket'))),
    Option.some.inj (hcert.symm.trans (h₃.trans (h₃'.symm.trans hcert')))⟩

/-- For a SKU of a product with a category, and a market with a rule for the category, the catalogue
lists of the required certificates what publishing finds, and it lists nothing twice. -/
theorem catalogFindings_eq (spus : List SpuFact) (skus : List SkuFact) (certs : List CertFact)
    (rules : List RuleFact) (today : Day) (hspus : Keyed SpuFact.spuId spus)
    (hskus : Keyed SkuFact.skuId skus) :
    (∀ sku ∈ skus, ∀ spu ∈ spus, spu.spuId = sku.spuId → ∀ category,
      spu.categoryCode = some category → category ≠ "" → ∀ market,
      (∃ rule ∈ rules, rule.market = market ∧ rule.categoryCode = category) → ∀ hsBound,
      (catalogFindings spus skus certs rules today).filter
          (isAbout sku.skuId market (requiredTypes rules market category)) =
        ((publishFindings market hsBound (requiredTypes rules market category)
          (latestExpiry certs sku.skuId market) today).filter fun f => f.certType.isSome).map
            fun f => f.about spu.spuId sku.skuId) ∧
      ((catalogFindings spus skus certs rules today).filterMap PublishFinding.key).Nodup := by
  rw [catalogFindings_eq_append]
  constructor
  · intro sku hsku spu hspu hof category hcategory hsome market hrule hsBound
    have hbinding : (if hsBound then []
        else [(⟨.l1, .hsMissing, market, none, none, none, none⟩ : PublishFinding)]).filter
        (fun f => f.certType.isSome) = [] := by
      split_ifs <;> simp
    have hcerts : (certFindings market (requiredTypes rules market category)
        (latestExpiry certs sku.skuId market) today).filter (fun f => f.certType.isSome) =
        certFindings market (requiredTypes rules market category)
          (latestExpiry certs sku.skuId market) today := by
      rw [List.filter_eq_self]
      intro f hf
      obtain ⟨t, -, hfound⟩ := mem_certFindings.mp hf
      cases hfound <;> rfl
    rw [List.filter_append, filter_ruledFindings hspus hskus hsku hspu hof hcategory hsome hrule,
      filter_lateFindings hspus hskus hsku hspu hof hcategory hsome hrule, List.append_nil,
      publishFindings, List.filter_append, hbinding, List.nil_append, hcerts, certFindings_eq_map]
  · rw [List.filterMap_append, List.nodup_append]
    refine ⟨nodup_ruledFindings hspus hskus, nodup_lateFindings, ?_⟩
    rintro k hk k' hk' rfl
    obtain ⟨f, hf, hkey⟩ := List.mem_filterMap.mp hk'
    obtain ⟨⟨⟨skuId, market, certType⟩, e⟩, -, hlate⟩ := List.mem_filterMap.mp hf
    obtain ⟨hsku, hmarket, hcert, hcovered, -⟩ := late_eq_some hlate
    have hkey' : f.key = some (skuId, market, certType, f.code) := by
      simp [PublishFinding.key, hsku, hmarket, hcert]
    rw [hkey, Option.some.injEq] at hkey'
    rw [← hkey'] at hcovered
    exact hcovered (List.mem_toFinset.mpr hk)

end

/-! A lamp with two SKUs, and a certificate that has run out. -/

private def lamp : SpuFact := ⟨1, "Lamp", some "LIGHT", ∅⟩

private def lampSkus : List SkuFact := [⟨10, 1, "LAMP-S"⟩, ⟨11, 1, "LAMP-L"⟩]

private def lampCerts : List CertFact := [⟨10, "TH", "TISI", 90⟩, ⟨10, "TH", "CE", 95⟩]

private def lampRules : List RuleFact := [⟨"TH", "LIGHT", "TISI"⟩]

theorem catalogFindings_eq_lamp :
    (catalogFindings [lamp] lampSkus lampCerts lampRules 100).filter
        (isAbout 10 "TH" (requiredTypes lampRules "TH" "LIGHT")) =
      ((publishFindings "TH" true (requiredTypes lampRules "TH" "LIGHT")
        (latestExpiry lampCerts 10 "TH") 100).filter fun f => f.certType.isSome).map
          (fun f => f.about (some 1) (some 10)) ∧
    ((catalogFindings [lamp] lampSkus lampCerts lampRules 100).filterMap
      PublishFinding.key).Nodup :=
  have h := catalogFindings_eq [lamp] lampSkus lampCerts lampRules 100 (by decide) (by decide)
  ⟨h.1 ⟨10, 1, "LAMP-S"⟩ (by simp [lampSkus]) lamp (by simp) rfl "LIGHT" rfl (by decide) "TH"
    ⟨_, List.mem_singleton_self _, rfl, rfl⟩ true, h.2⟩

end CrossPilot.Compliance
