import CrossPilot.Sheets.ProductRows
import CrossPilot.Database
import CrossPilot.Lib.Optional

/-!
# What an import of products does

An import creates one product for each row, or raises its own error. It does so exactly if the sheet
is importable in the sense of `Importable` (`imported_iff`): no measure is `NaN`, no correct row has
an infinite measure, and where no row has an error, everything can be stored as it is.
-/

namespace CrossPilot.ProductSheet

open Decimals

variable {columns : Dict Column ℕ} {cells : List String}

/-! ### Measures -/

/-- The number that a text spells. -/
def Spells (text : String) (x : ℚ) : Prop :=
  ∃ d, Numeral.ofText text = some (.number d) ∧ d.value = .inl x

/-- A column holds the number as it is. -/
def FitsColumn : Decimal → Prop
  | .infinite _ => False
  | .finite negative digits exponent => -16383 ≤ exponent ∧
    ∃ x, (Decimal.finite negative digits exponent).value = .inl x ∧ Fixed 6 x ∧ |x| < 10 ^ 14

/-- A number is stored as it is exactly if it fits its column. -/
lemma storeNumeric_eq_value_iff {d : Decimal} {x : ℚ} (hx : d.value = .inl x) :
    storeNumeric d = .ok x ↔ FitsColumn d := by
  cases d with
  | infinite negative => simp [storeNumeric, FitsColumn]
  | finite negative digits exponent =>
    have hstore : storeNumeric (.finite negative digits exponent) =
        if exponent < -16383 ∨ 10 ^ 14 ≤ |quantize 6 x| then .error .data
        else .ok (quantize 6 x) := by
      rw [storeNumeric, hx]
    simp only [hstore, FitsColumn, hx, Sum.inl.injEq]
    constructor
    · intro h
      split_ifs at h with hbad
      rw [Except.ok.injEq] at h
      rw [h, not_or, not_lt, not_le] at hbad
      exact ⟨hbad.1, x, rfl, h ▸ fixed_quantize 6 x, hbad.2⟩
    · rintro ⟨hplaces, _, rfl, hfixed, hbound⟩
      rw [quantize_eq_self hfixed, if_neg]
      exact not_or.mpr ⟨not_lt.mpr hplaces, not_le.mpr hbound⟩

lemma value_pos {d : Decimal} {x : ℚ} (hx : d.value = .inl x) (h : isPositive d) : 0 < x := by
  cases d with
  | infinite negative => cases hx
  | finite negative digits exponent =>
    simp only [isPositive, Bool.and_eq_true, Bool.not_eq_true', decide_eq_true_eq] at h
    obtain ⟨rfl, hdigits⟩ := h
    simp only [Decimal.value, Bool.false_eq_true, if_false, Sum.inl.injEq] at hx
    rw [← hx]
    have hshifted : 0 < (Decimal.shifted digits exponent).1 := by
      rw [Decimal.shifted]
      split_ifs
      · exact Nat.mul_pos (Nat.pos_of_ne_zero hdigits) (Nat.pow_pos (by norm_num))
      · exact Nat.pos_of_ne_zero hdigits
    positivity

/-- What is stored of a measure of a correct row is its number exactly if the number fits. -/
lemma storeNumeric_numberOf {before : List (ℤ × List String)} (h : Correct columns before cells)
    {c : Column} (hc : c ∈ Column.measures) :
    (∃ x, storeNumeric (numberOf (cellOf columns cells c)) = .ok x ∧
      Spells (cellOf columns cells c) x ∧ 0 < x) ↔
    ∀ d, Numeral.ofText (cellOf columns cells c) = some (.number d) → FitsColumn d := by
  obtain ⟨d, hread, hpositive⟩ := h.measures c hc
  have hd : numberOf (cellOf columns cells c) = d := by
    simp [numberOf, measureOf_eq_some_iff.mpr ⟨hread, hpositive⟩]
  simp only [hd, hread, Spells, Option.some.injEq, Numeral.number.injEq, exists_eq_left',
    forall_eq']
  constructor
  · rintro ⟨x, hstore, hx, -⟩
    exact (storeNumeric_eq_value_iff hx).mp hstore
  · intro hfits
    cases d with
    | infinite negative => exact hfits.elim
    | finite negative digits exponent =>
      obtain ⟨-, x, hx, -⟩ := id hfits
      exact ⟨x, (storeNumeric_eq_value_iff hx).mpr hfits, hx, value_pos hx hpositive⟩

/-! ### Texts -/

lemma storeText_eq_ok_iff {text stored : String} :
    storeText text = .ok stored ↔ Text.storable text ∧ stored = text := by
  rw [storeText]
  split_ifs with h <;> simp [h, eq_comm]

lemma storeOptional_eq_ok_iff {text : String} {stored : Option String} :
    storeOptional (optionalText text) = .ok stored ↔ Text.storable text ∧
      stored = optionalText text := by
  have hempty : Text.storable "" := by decide
  rw [optionalText]
  split_ifs with h
  · subst h
    simp [storeOptional, hempty, eq_comm]
  · rw [storeOptional, storeText]
    split_ifs with hstorable <;> simp [hstorable, Except.map, eq_comm]

/-! ### One product -/

/-- No active SKU has the code of a row. -/
def Free (columns : Dict Column ℕ) (s : Store) (cells : List String) : Prop :=
  ∀ sku ∈ s.skus, sku.deleted = false → sku.skuCode ≠ cellOf columns cells .skuCode

/-- The texts of a row have a place in the database. -/
def TextsStorable (columns : Dict Column ℕ) (cells : List String) : Prop :=
  Text.storable (cellOf columns cells .skuCode) ∧ Text.storable (cellOf columns cells .title) ∧
    Text.storable (cellOf columns cells .brand) ∧ Text.storable (cellOf columns cells .barcode)

/-- The product of a row with the measures that were stored. -/
def productOf (columns : Dict Column ℕ) (id : ℕ) (cells : List String)
    (weight length width height : ℚ) : Spu × Sku :=
  (⟨id, cellOf columns cells .title, optionalText (cellOf columns cells .brand), "DRAFT"⟩, {
    id := id + 1
    spuId := id
    skuCode := cellOf columns cells .skuCode
    barcode := optionalText (cellOf columns cells .barcode)
    weightG := weight
    lengthCm := length
    widthCm := width
    heightCm := height })

/-- The measures of a row as they are stored. -/
structure Measured (columns : Dict Column ℕ) (cells : List String)
    (weight length width height : ℚ) : Prop where
  weight : storeNumeric (numberOf (cellOf columns cells .weightG)) = .ok weight ∧ 0 < weight
  length : storeNumeric (numberOf (cellOf columns cells .lengthCm)) = .ok length ∧ 0 < length
  width : storeNumeric (numberOf (cellOf columns cells .widthCm)) = .ok width ∧ 0 < width
  height : storeNumeric (numberOf (cellOf columns cells .heightCm)) = .ok height ∧ 0 < height

variable {s s' : Store}

lemma ensureCodeFree_eq_ok_iff {skuCode : String} {u : Unit} :
    ensureCodeFree s skuCode = .ok u ↔ Text.storable skuCode ∧
      ∀ sku ∈ s.skus, sku.deleted = false → sku.skuCode ≠ skuCode := by
  simp only [ensureCodeFree, codeTaken, bind_eq_ok, storeText_eq_ok_iff]
  constructor
  · rintro ⟨_, ⟨_, ⟨hstorable, rfl⟩, hany⟩, hfree⟩
    cases hany
    split_ifs at hfree with hany
    exact ⟨hstorable, by simpa using hany⟩
  · rintro ⟨hstorable, hfree⟩
    refine ⟨_, ⟨_, ⟨hstorable, rfl⟩, rfl⟩, ?_⟩
    rw [if_neg (by simpa using hfree)]

/-- What the creation of the product of a row does. -/
lemma createSpu_eq_ok_iff : createSpu s (draftOf columns cells) = .ok s' ↔
    TextsStorable columns cells ∧ Free columns s cells ∧
    ∃ weight length width height, Measured columns cells weight length width height ∧
      s' = {
        spus := s.spus ++ [(productOf columns s.nextId cells weight length width height).1]
        skus := s.skus ++ [(productOf columns s.nextId cells weight length width height).2]
        nextId := s.nextId + 1 + 1 } := by
  simp only [createSpu, bind_eq_ok, ensureCodeFree_eq_ok_iff, addSpu, addSku, draftOf,
    storeText_eq_ok_iff, storeOptional_eq_ok_iff, Prod.exists]
  constructor
  · rintro ⟨-, ⟨hcode, hfree⟩, _, _, ⟨_, ⟨htitle, rfl⟩, _, ⟨hbrand, rfl⟩, hspu⟩, hsku⟩
    cases hspu
    obtain ⟨_, ⟨-, rfl⟩, _, ⟨hbarcode, rfl⟩, weight, hweight, length, hlength, width, hwidth, height,
      hheight, hlast⟩ := hsku
    split_ifs at hlast with hmeasures hany
    cases hlast
    exact ⟨⟨hcode, htitle, hbrand, hbarcode⟩, hfree, weight, length, width, height,
      ⟨⟨hweight, hmeasures.1⟩, ⟨hlength, hmeasures.2.1⟩, ⟨hwidth, hmeasures.2.2.1⟩,
        hheight, hmeasures.2.2.2⟩, rfl⟩
  · rintro ⟨⟨hcode, htitle, hbrand, hbarcode⟩, hfree, weight, length, width, height, h, rfl⟩
    refine ⟨(), ⟨hcode, hfree⟩, _, _, ⟨_, ⟨htitle, rfl⟩, _, ⟨hbrand, rfl⟩, rfl⟩, _, ⟨hcode, rfl⟩, _,
      ⟨hbarcode, rfl⟩, weight, h.weight.1, length, h.length.1, width, h.width.1, height,
      h.height.1, ?_⟩
    rw [if_neg (not_not.mpr ⟨h.weight.2, h.length.2, h.width.2, h.height.2⟩), if_neg]
    · rfl
    · simpa [Free] using hfree

/-! ### All products -/

/-- A product with the values of a row. -/
structure FromRow (columns : Dict Column ℕ) (cells : List String) (product : Spu × Sku) :
    Prop where
  title : product.1.title = cellOf columns cells .title
  brand : product.1.brand = optionalText (cellOf columns cells .brand)
  status : product.1.status = "DRAFT"
  linked : product.2.spuId = product.1.id
  code : product.2.skuCode = cellOf columns cells .skuCode
  barcode : product.2.barcode = optionalText (cellOf columns cells .barcode)
  weight : Spells (cellOf columns cells .weightG) product.2.weightG
  length : Spells (cellOf columns cells .lengthCm) product.2.lengthCm
  width : Spells (cellOf columns cells .widthCm) product.2.widthCm
  height : Spells (cellOf columns cells .heightCm) product.2.heightCm
  unpriced : product.2.purchasePrice = none ∧ product.2.currency = none
  active : product.2.deleted = false

/-- A row whose product can be stored with the values of the row. -/
structure Storable (columns : Dict Column ℕ) (cells : List String) : Prop where
  texts : TextsStorable columns cells
  measures : ∀ c ∈ Column.measures, ∀ d,
    Numeral.ofText (cellOf columns cells c) = some (.number d) → FitsColumn d

/-- The row of a product that was stored. -/
structure Stored (columns : Dict Column ℕ) (cells : List String) (product : Spu × Sku) :
    Prop where
  texts : TextsStorable columns cells
  measured : Measured columns cells product.2.weightG product.2.lengthCm product.2.widthCm
    product.2.heightCm

/-- A product that was stored with the values of its row. -/
lemma Stored.storable {before : List (ℤ × List String)} {product : Spu × Sku}
    (hcorrect : Correct columns before cells) (h : Stored columns cells product)
    (hrow : FromRow columns cells product) : Storable columns cells := by
  refine ⟨h.texts, fun c hc => (storeNumeric_numberOf hcorrect hc).mp ?_⟩
  obtain ⟨hweight, hlength, hwidth, hheight⟩ := h.measured
  simp only [Column.measures, List.mem_cons, List.not_mem_nil, or_false] at hc
  obtain rfl | rfl | rfl | rfl := hc
  · exact ⟨_, hweight.1, hrow.weight, hweight.2⟩
  · exact ⟨_, hlength.1, hrow.length, hlength.2⟩
  · exact ⟨_, hwidth.1, hrow.width, hwidth.2⟩
  · exact ⟨_, hheight.1, hrow.height, hheight.2⟩

/-- A correct row that can be stored gives a product with its values. -/
lemma Storable.exists_createSpu {before : List (ℤ × List String)}
    (hcorrect : Correct columns before cells) (h : Storable columns cells)
    (hfree : Free columns s cells) : ∃ s' product,
    createSpu s (draftOf columns cells) = .ok s' ∧ FromRow columns cells product ∧
      s'.spus = s.spus ++ [product.1] ∧ s'.skus = s.skus ++ [product.2] := by
  have hmeasure (c : Column) (hc : c ∈ Column.measures) :=
    (storeNumeric_numberOf hcorrect hc).mpr (h.measures c hc)
  obtain ⟨weight, hweight, spelled, positive⟩ := hmeasure .weightG (by simp [Column.measures])
  obtain ⟨length, hlength, spelled₁, positive₁⟩ := hmeasure .lengthCm (by simp [Column.measures])
  obtain ⟨width, hwidth, spelled₂, positive₂⟩ := hmeasure .widthCm (by simp [Column.measures])
  obtain ⟨height, hheight, spelled₃, positive₃⟩ := hmeasure .heightCm (by simp [Column.measures])
  have hmeasured : Measured columns cells weight length width height :=
    ⟨⟨hweight, positive⟩, ⟨hlength, positive₁⟩, ⟨hwidth, positive₂⟩, hheight, positive₃⟩
  refine ⟨_, productOf columns s.nextId cells weight length width height,
    createSpu_eq_ok_iff.mpr ⟨h.texts, hfree, weight, length, width, height, hmeasured, rfl⟩,
    ?_, rfl, rfl⟩
  exact ⟨rfl, rfl, rfl, rfl, rfl, rfl, spelled, spelled₁, spelled₂, spelled₃, ⟨rfl, rfl⟩, rfl⟩

variable {rows : List (ℤ × List String)}

/-- The loop over the drafts of rows. -/
def createAll (columns : Dict Column ℕ) (s : Store) (rows : List (ℤ × List String)) :
    Except Exn Store :=
  rows.foldlM (fun s row => createSpu s (draftOf columns row.2)) s

/-- Where all rows can be stored and their codes are free, every row gives its product. -/
lemma createAll_of_storable (hcorrect : ∀ row ∈ rows, ∃ before, Correct columns before row.2)
    (hdistinct : rows.Pairwise fun r r' =>
      cellOf columns r.2 .skuCode ≠ cellOf columns r'.2 .skuCode)
    (hfree : ∀ row ∈ rows, Free columns s row.2) (h : ∀ row ∈ rows, Storable columns row.2) :
    ∃ s' products, createAll columns s rows = .ok s' ∧
      List.Forall₂ (fun row product => FromRow columns row.2 product) rows products ∧
      s'.spus = s.spus ++ products.map Prod.fst ∧ s'.skus = s.skus ++ products.map Prod.snd := by
  induction rows generalizing s with
  | nil => exact ⟨s, [], rfl, .nil, by simp, by simp⟩
  | cons row rest ih =>
    rw [List.pairwise_cons] at hdistinct
    rw [List.forall_mem_cons] at hcorrect hfree h
    obtain ⟨before, hfirst⟩ := hcorrect.1
    obtain ⟨t, product, hcreate, hproduct, hspus, hskus⟩ := h.1.exists_createSpu hfirst hfree.1
    have hfree' : ∀ r ∈ rest, Free columns t r.2 := by
      intro r hr sku hsku hactive
      rw [hskus, List.mem_append, List.mem_singleton] at hsku
      obtain hsku | rfl := hsku
      · exact hfree.2 r hr sku hsku hactive
      · rw [hproduct.code]
        exact hdistinct.1 r hr
    obtain ⟨s', products, hrest, hall, hspus', hskus'⟩ := ih hcorrect.2 hdistinct.2 hfree' h.2
    refine ⟨s', product :: products, ?_, .cons hproduct hall, ?_, ?_⟩
    · rw [createAll, List.foldlM_cons, hcreate]
      exact hrest
    · simp [hspus', hspus]
    · simp [hskus', hskus]

/-- What was created is a product for each row, stored as far as columns hold it. -/
lemma exists_of_createAll (h : createAll columns s rows = .ok s') : ∃ products,
    List.Forall₂ (fun row product => Stored columns row.2 product) rows products ∧
      s'.spus = s.spus ++ products.map Prod.fst ∧ s'.skus = s.skus ++ products.map Prod.snd := by
  induction rows generalizing s with
  | nil =>
    cases h
    exact ⟨[], .nil, by simp, by simp⟩
  | cons row rest ih =>
    rw [createAll, List.foldlM_cons, bind_eq_ok] at h
    obtain ⟨t, hcreate, hrest⟩ := h
    obtain ⟨htexts, -, weight, length, width, height, hmeasured, rfl⟩ :=
      createSpu_eq_ok_iff.mp hcreate
    obtain ⟨products, hall, hspus, hskus⟩ := ih hrest
    exact ⟨productOf columns s.nextId row.2 weight length width height :: products,
      .cons ⟨htexts, hmeasured⟩ hall, by simp [hspus], by simp [hskus]⟩

/-! ### Foreign exceptions -/

/-- Whatever is raised is foreign to the import. -/
def RaisesForeign {α : Type} (x : Except Exn α) : Prop := ∀ e, x = .error e → e.foreign

namespace RaisesForeign

variable {α β : Type} {x : Except Exn α} {f : α → Except Exn β}

lemma ok (a : α) : RaisesForeign (.ok a) := by
  intro e h
  cases h

lemma error {e : Exn} (h : e.foreign) : RaisesForeign (.error e : Except Exn α) := by
  intro e' h'
  cases h'
  exact h

lemma bind (hx : RaisesForeign x) (hf : ∀ a, RaisesForeign (f a)) : RaisesForeign (x >>= f) := by
  intro e h
  obtain h | ⟨a, -, h⟩ := bind_eq_error.mp h
  · exact hx e h
  · exact hf a e h

end RaisesForeign

lemma raisesForeign_storeText (text : String) : RaisesForeign (storeText text) := by
  rw [storeText]
  split_ifs
  · exact .ok _
  · exact .error rfl

lemma raisesForeign_storeOptional (text : Option String) : RaisesForeign (storeOptional text) := by
  cases text with
  | none => exact .ok _
  | some text =>
    rw [storeOptional, storeText]
    split_ifs
    · exact .ok _
    · exact .error rfl

lemma raisesForeign_storeNumeric (d : Decimal) : RaisesForeign (storeNumeric d) := by
  cases d with
  | infinite negative => exact .error rfl
  | finite negative digits exponent =>
    rw [storeNumeric]
    split
    · exact .error rfl
    · split_ifs
      · exact .error rfl
      · exact .ok _

lemma raisesForeign_codeTaken (s : Store) (skuCode : String) :
    RaisesForeign (codeTaken s skuCode) :=
  .bind (raisesForeign_storeText skuCode) fun _ => .ok _

lemma raisesForeign_createSpu (s : Store) (d : SpuCreate) : RaisesForeign (createSpu s d) := by
  rw [createSpu]
  refine .bind (.bind (raisesForeign_codeTaken _ _) fun taken => ?_) fun _ => .bind ?_ fun _ => ?_
  · split_ifs
    · exact .error rfl
    · exact .ok _
  · exact .bind (raisesForeign_storeText _) fun _ => .bind (raisesForeign_storeOptional _)
      fun _ => .ok _
  · refine .bind (raisesForeign_storeText _) fun _ => .bind (raisesForeign_storeOptional _)
      fun _ => .bind (raisesForeign_storeNumeric _) fun _ => .bind (raisesForeign_storeNumeric _)
      fun _ => .bind (raisesForeign_storeNumeric _) fun _ => .bind (raisesForeign_storeNumeric _)
      fun _ => ?_
    dsimp only
    split_ifs
    · exact .error rfl
    · exact .ok _
    · exact .error rfl

lemma raisesForeign_createAll (columns : Dict Column ℕ) (s : Store)
    (rows : List (ℤ × List String)) : RaisesForeign (createAll columns s rows) := by
  intro e h
  obtain ⟨row, -, t, hrow⟩ := Fallible.foldlM_eq_error h
  exact raisesForeign_createSpu t _ e hrow

/-! ### Codes that are taken -/

/-- The codes are looked up where the database can hold them all. -/
lemma takenErrors_cases (s : Store) (drafts : List (ℤ × SpuCreate)) :
    ((∀ d ∈ drafts, Text.storable d.2.sku.skuCode) ∧ ∃ taken, takenErrors s drafts = .ok taken ∧
      (taken = [] ↔ ∀ d ∈ drafts, ∀ sku ∈ s.skus, sku.deleted = false →
        sku.skuCode ≠ d.2.sku.skuCode)) ∨
    ((¬ ∀ d ∈ drafts, Text.storable d.2.sku.skuCode) ∧ takenErrors s drafts = .error .data) := by
  rw [takenErrors]
  induction drafts using List.reverseRecOn with
  | nil => exact .inl ⟨by simp, [], rfl, by simp⟩
  | append_singleton drafts d ih =>
    rw [List.foldlM_append]
    obtain ⟨hall, taken, hok, hnil⟩ | ⟨hnot, herror⟩ := ih
    · rw [hok]
      simp only [bind, Except.bind, List.foldlM_cons, List.foldlM_nil, codeTaken, storeText]
      by_cases hcode : Text.storable d.2.sku.skuCode
      · refine .inl ⟨List.forall_mem_append.mpr ⟨hall, by simpa using hcode⟩, ?_⟩
        by_cases htaken : s.skus.any fun sku => !sku.deleted && sku.skuCode = d.2.sku.skuCode
        · refine ⟨taken ++ [⟨d.1, Column.skuCode.key, "SKU 编码已存在"⟩], ?_, ?_⟩
          · simp only [hcode, if_true, pure, Except.pure, htaken]
          · simp only [List.append_eq_nil_iff, reduceCtorEq, and_false, false_iff]
            intro h
            obtain ⟨sku, hsku, hsame⟩ := List.any_eq_true.mp htaken
            simp only [Bool.and_eq_true, Bool.not_eq_true', decide_eq_true_eq] at hsame
            exact h d (by simp) sku hsku hsame.1 hsame.2
        · refine ⟨taken, ?_, ?_⟩
          · simp only [hcode, if_true, pure, Except.pure, htaken, if_false, Bool.false_eq_true]
          · rw [hnil, List.forall_mem_append, List.forall_mem_singleton]
            exact (and_iff_left (by simpa using htaken)).symm
      · refine .inr ⟨fun h => hcode (h d (by simp)), ?_⟩
        simp only [hcode, if_false, Bool.false_eq_true]
    · exact .inr ⟨fun h => hnot fun d' hd' => h d' (by simp [hd']), by rw [herror]; rfl⟩

/-! ### The import -/

/-- Every data row became a product with its values, and nothing else changed. -/
def Creates (header : List String) (data : List (ℤ × List String)) (s s' : Store) : Prop :=
  ∃ products : List (Spu × Sku),
    List.Forall₂ (fun row product => FromRow (columnsOf header) row.2 product) data products ∧
      s'.spus = s.spus ++ products.map Prod.fst ∧ s'.skus = s.skus ++ products.map Prod.snd

/-- The import created one product for each data row, or raised its error. -/
def Imported (table : List (ℤ × List String)) (s : Store) : Prop :=
  match importFile table s with
  | .error e => ∃ rows, e = .productImport rows
  | .ok (s', created) => ∃ header data, table = header :: data ∧ created = data.length ∧
    Creates header.2 data s s'

/-- The rows of a sheet can be imported. -/
structure Importable (columns : Dict Column ℕ) (data : List (ℤ × List String)) (s : Store) :
    Prop extends Readable columns data where
  codes : AllCorrect columns data →
    ∀ row ∈ data, Text.storable (cellOf columns row.2 .skuCode)
  products : AllCorrect columns data → (∀ row ∈ data, Free columns s row.2) →
    ∀ row ∈ data, Storable columns row.2

/-- The header has all columns that are required, and the rows are not too many. -/
def Complete (header : List String) (data : List (ℤ × List String)) : Prop :=
  (∀ c ∈ Column.required, ((columnsOf header).get c).isSome) ∧ data.length ≤ maxImportRows

lemma headerErrors_eq_nil_iff {header : ℤ × List String} {data : List (ℤ × List String)} :
    headerErrors header data = [] ↔ Complete header.2 data := by
  rw [headerErrors, List.append_eq_nil_iff, Complete]
  refine and_congr ?_ ?_
  · simp [List.filter_eq_nil_iff, Option.isSome_iff_ne_none]
  · cases hrow : data[maxImportRows]? with
    | none => simpa using hrow
    | some row =>
      obtain ⟨hlt, -⟩ := List.getElem?_eq_some_iff.mp hrow
      simp [hlt]

lemma AllCorrect.exists_before (h : AllCorrect columns rows) :
    ∀ row ∈ rows, ∃ before, Correct columns before row.2 := by
  intro row hrow
  obtain ⟨before, after, hsplit⟩ := List.append_of_mem hrow
  exact ⟨before, h before row after hsplit⟩

lemma AllCorrect.pairwise (h : AllCorrect columns rows) : rows.Pairwise fun r r' =>
    cellOf columns r.2 .skuCode ≠ cellOf columns r'.2 .skuCode := by
  induction rows using List.reverseRecOn with
  | nil => exact .nil
  | append_singleton rows row ih =>
    obtain ⟨hrows, hlast⟩ := allCorrect_append_singleton.mp h
    rw [List.pairwise_append]
    refine ⟨ih hrows, by simp, fun r hr r' hr' => ?_⟩
    rw [List.mem_singleton.mp hr']
    exact hlast.unused r hr

/-- What the loop over the drafts creates has the values of the rows exactly if all rows can be
stored. -/
lemma created_iff {header : List String} (hcorrect : AllCorrect (columnsOf header) rows)
    (hfree : ∀ row ∈ rows, Free (columnsOf header) s row.2) :
    (∃ s', createAll (columnsOf header) s rows = .ok s' ∧ Creates header rows s s') ↔
      ∀ row ∈ rows, Storable (columnsOf header) row.2 := by
  constructor
  · rintro ⟨s', hcreate, products, hproducts, hspus, hskus⟩
    obtain ⟨products', hstored, hspus', hskus'⟩ := exists_of_createAll hcreate
    have hsame : products' = products := by
      have hfst := List.append_cancel_left (hspus'.symm.trans hspus)
      have hsnd := List.append_cancel_left (hskus'.symm.trans hskus)
      rw [← List.zip_unzip products', ← List.zip_unzip products, List.unzip_eq_map,
        List.unzip_eq_map, hfst, hsnd]
    subst hsame
    intro row hrow
    obtain ⟨before, hbefore⟩ := hcorrect.exists_before row hrow
    obtain ⟨i, hi, rfl⟩ := List.getElem_of_mem hrow
    have hi' : i < products'.length := hproducts.length_eq ▸ hi
    exact (hstored.get hi hi').storable hbefore (hproducts.get hi hi')
  · intro h
    obtain ⟨s', products, hcreate, hall⟩ :=
      createAll_of_storable hcorrect.exists_before hcorrect.pairwise hfree h
    exact ⟨s', hcreate, products, hall⟩

section

variable {header : ℤ × List String} {data : List (ℤ × List String)}

lemma importFile_incomplete (h : ¬ Complete header.2 data) :
    importFile (header :: data) s = .error (.productImport (headerErrors header data)) := by
  have herrors : headerErrors header data ≠ [] := mt headerErrors_eq_nil_iff.mp h
  simp [importFile, herrors, bind, Except.bind]

variable (hcomplete : Complete header.2 data)
include hcomplete

lemma importFile_unreadable (h : ¬ Readable (columnsOf header.2) data) :
    ∃ e, importFile (header :: data) s = .error e ∧ e.foreign := by
  have hheader := headerErrors_eq_nil_iff.mpr hcomplete
  obtain ⟨hreadable, -⟩ | ⟨-, e, hread, hforeign⟩ := foldlM_parseRow (columnsOf header.2) data
  · exact absurd hreadable h
  · exact ⟨e, by simp [importFile, hheader, hread, bind, Except.bind], hforeign⟩

variable (hreadable : Readable (columnsOf header.2) data)
include hreadable

/-- Errors in the rows, or no rows at all. -/
lemma importFile_incorrect (h : ¬ (AllCorrect (columnsOf header.2) data ∧ data ≠ [])) :
    ∃ rows, importFile (header :: data) s = .error (.productImport rows) := by
  have hheader := headerErrors_eq_nil_iff.mpr hcomplete
  obtain ⟨-, p, hread, hreads⟩ | ⟨hnot, -⟩ := foldlM_parseRow (columnsOf header.2) data
  · refine ⟨p.errors ++ if data = [] then [⟨header.1, "", "没有数据行"⟩] else [], ?_⟩
    have herrors : p.errors ++ (if data = [] then
        [(⟨header.1, "", "没有数据行"⟩ : RowError)] else []) ≠ [] := by
      intro hnil
      obtain ⟨herrors, hdata⟩ := List.append_eq_nil_iff.mp hnil
      refine h ⟨hreads.errors.mp herrors, fun hempty => ?_⟩
      simp [hempty] at hdata
    simp only [importFile, hheader, hread, bind, Except.bind]
    rw [if_neg (by simp), if_pos herrors]
  · exact absurd hreadable hnot

/-- Rows without errors are looked up and created. -/
lemma importFile_correct (h : AllCorrect (columnsOf header.2) data) (hne : data ≠ []) :
    importFile (header :: data) s = do
      let taken ← takenErrors s (data.map fun row => (row.1, draftOf (columnsOf header.2) row.2))
      if taken ≠ [] then .error (.productImport taken)
      let s' ← createAll (columnsOf header.2) s data
      return (s', data.length) := by
  have hheader := headerErrors_eq_nil_iff.mpr hcomplete
  obtain ⟨-, p, hread, hreads⟩ | ⟨hnot, -⟩ := foldlM_parseRow (columnsOf header.2) data
  · have herrors := hreads.errors.mpr h
    have hdrafts := hreads.drafts herrors
    simp only [importFile, hheader, hread, bind, Except.bind, herrors, hdrafts, hne, if_false,
      List.append_nil, ne_eq, not_true_eq_false, List.foldlM_map, List.length_map]
    rfl
  · exact absurd hreadable hnot

end

lemma imported_cons_iff {header : ℤ × List String} {data : List (ℤ × List String)} :
    Imported (header :: data) s ↔
      (Complete header.2 data → Importable (columnsOf header.2) data s) := by
  by_cases hcomplete : Complete header.2 data
  swap
  · simp [Imported, importFile_incomplete hcomplete, hcomplete]
  rw [imp_iff_right hcomplete]
  by_cases hreadable : Readable (columnsOf header.2) data
  swap
  · obtain ⟨e, himport, hforeign⟩ := importFile_unreadable (s := s) hcomplete hreadable
    rw [Imported, himport]
    refine iff_of_false ?_ fun h => hreadable h.toReadable
    rintro ⟨rows, rfl⟩
    cases hforeign
  by_cases hrows : AllCorrect (columnsOf header.2) data ∧ data ≠ []
  swap
  · obtain ⟨rows, himport⟩ := importFile_incorrect (s := s) hcomplete hreadable hrows
    rw [Imported, himport]
    refine iff_of_true ⟨rows, rfl⟩ ⟨hreadable, fun hall row hrow => ?_, fun hall _ row hrow => ?_⟩
    · exact absurd ⟨hall, List.ne_nil_of_mem hrow⟩ hrows
    · exact absurd ⟨hall, List.ne_nil_of_mem hrow⟩ hrows
  obtain ⟨hall, hne⟩ := hrows
  rw [Imported, importFile_correct hcomplete hreadable hall hne]
  obtain ⟨hcodes, taken, htaken, hnil⟩ | ⟨hcodes, htaken⟩ := takenErrors_cases s
    (data.map fun row => (row.1, draftOf (columnsOf header.2) row.2))
  swap
  · rw [htaken]
    refine iff_of_false (by simp [bind, Except.bind]) fun h => hcodes ?_
    exact List.forall_mem_map.mpr (h.codes hall)
  rw [List.forall_mem_map] at hcodes hnil
  simp only [htaken, bind, Except.bind]
  by_cases hfree : taken = []
  swap
  · rw [if_pos hfree]
    refine iff_of_true ⟨taken, rfl⟩ ⟨hreadable, fun _ => hcodes, fun _ h => ?_⟩
    exact absurd (hnil.mpr h) hfree
  -- the codes are free, and the products are created
  have hfree' : ∀ row ∈ data, Free (columnsOf header.2) s row.2 := hnil.mp hfree
  rw [if_neg (not_not.mpr hfree)]
  have himportable : Importable (columnsOf header.2) data s ↔
      ∀ row ∈ data, Storable (columnsOf header.2) row.2 :=
    ⟨fun h => h.products hall hfree', fun h => ⟨hreadable, fun _ => hcodes, fun _ _ => h⟩⟩
  rw [himportable, ← created_iff hall hfree']
  cases hcreate : createAll (columnsOf header.2) s data with
  | error e =>
    have hforeign := raisesForeign_createAll _ _ _ e hcreate
    refine iff_of_false ?_ (by simp)
    rintro ⟨rows, rfl⟩
    cases hforeign
  | ok s' =>
    simp [pure, Except.pure]

/-- An import creates one product with the values of each row or raises its error exactly if the
sheet has no complete header, too many rows, or rows that can be imported. -/
theorem imported_iff (table : List (ℤ × List String)) (s : Store) : Imported table s ↔
    ∀ header data, table = header :: data → Complete header.2 data →
      Importable (columnsOf header.2) data s := by
  cases table with
  | nil => simp [Imported, importFile]
  | cons header data =>
    rw [imported_cons_iff]
    constructor
    · rintro h _ _ htable
      cases htable
      exact h
    · exact fun h => h header data rfl

/-- A header and one row with a weight. -/
private def sheetOf (weight : String) : List (ℤ × List String) :=
  [(1, ["sku_code", "title", "weight_g", "length_cm", "width_cm", "height_cm"]),
    (2, ["A-1", "Lamp", weight, "10", "10", "10"])]

example : (importFile (sheetOf "1.5e3") ⟨[], [], 1⟩).map (fun r => r.1.skus.map (·.weightG)) =
    .ok [1500] := by
  decide +kernel

/-- A weight that is `NaN` ends the import with a `decimal.InvalidOperation`. -/
theorem not_imported_nan : ¬ ∀ table s, Imported table s := by
  intro h
  have himport : importFile (sheetOf "NaN") ⟨[], [], 1⟩ = .error .invalidOperation := by
    decide +kernel
  have himported := h (sheetOf "NaN") ⟨[], [], 1⟩
  rw [Imported, himport] at himported
  obtain ⟨rows, hrows⟩ := himported
  cases hrows

end CrossPilot.ProductSheet
