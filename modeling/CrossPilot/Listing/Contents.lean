import CrossPilot.Database
import CrossPilot.Lib.Outline
import CrossPilot.Lib.Table

/-!
# Texts of a listing

A listing has a text for each language. A machine translation stays a draft until somebody has gone
over it, and only a text that was gone over may be published. The requests read the row first and
then write those of its columns that they change. So a request may find the row changed when it comes
to write: what was gone over is then published with a text that was not. As long as every change
finds its row as it was read, a text that counts as reviewed is the one last reviewed
(`honest_contents`).
-/

namespace CrossPilot.Locale

open Transaction Table

/-- `QUALITY_STATUSES`. -/
inductive QualityStatus
  | untranslated | mtDraft | reviewed | published
  deriving DecidableEq

/-- The texts of a row. -/
structure ContentCopy where
  title : String := ""
  description : String := ""
  bulletPoints : List String := []
  deriving DecidableEq

/-- The text of a listing in a language. -/
structure ListingContent where
  id : ℕ
  listingId : ℕ
  lang : String
  title : String := ""
  description : String := ""
  bulletPoints : List String := []
  qualityStatus : QualityStatus := .untranslated
  deleted : Bool := false
  deriving DecidableEq

def ListingContent.copy (row : ListingContent) : ContentCopy :=
  ⟨row.title, row.description, row.bulletPoints⟩

/-- The translation of a term. -/
structure GlossaryTerm where
  id : ℕ
  sourceLang : String
  sourceTerm : String
  targetLang : String
  targetTerm : String
  deleted : Bool := false
  deriving DecidableEq

/-- The tables. `listings` are those that are not deleted. `reviews` is not a table: it records the
texts that were saved as reviewed, with the ids of their rows, in the order of the commits. -/
structure ContentTables where
  listings : List ℕ := []
  contents : List ListingContent := []
  glossary : List GlossaryTerm := []
  reviews : List (ℕ × ContentCopy) := []
  deriving DecidableEq

/-- A row, or the place of a language in the unique index of the rows that are not deleted. -/
inductive ContentKey
  | content (id : ℕ)
  | lang (listingId : ℕ) (lang : String)
  deriving DecidableEq

/-- The memory of a request: the row it has read to write it, and the id of a new one. -/
structure ContentSession where
  loaded : Option ListingContent := none
  newId : ℕ

abbrev ContentWork (α : Type) := Prog ContentSession ContentTables ContentKey ServiceError α

/-! ### Rules -/

def textEmpty (title description : String) (bullets : List String) : Bool :=
  if Text.strip title ≠ "" ∨ Text.strip description ≠ "" then false
  else bullets.all fun item => Text.strip item = ""

def humanStatus (previous : Option QualityStatus) (empty confirmReview : Bool) : QualityStatus :=
  if empty then .untranslated
  else if previous = some .mtDraft ∧ confirmReview = false then .mtDraft
  else .reviewed

def assertPublishable (status : QualityStatus) (title : String) : Except ServiceError Unit :=
  if status ≠ .reviewed then .error (.app 40011 "未人工校对的语言不能发布")
  else if Text.strip title = "" then .error (.app 40011 "发布前需要填写标题")
  else .ok ()

/-! ### Rows -/

/-- `get_active`. -/
def getActive (d : ContentTables) (listingId : ℕ) (lang : String) : Option ListingContent :=
  d.contents.find? fun row => !row.deleted && row.listingId = listingId && row.lang = lang

/-- The columns of a row that differ from what was read, written over the row as it is. -/
def flushed (loaded row old : ListingContent) : ListingContent :=
  { old with
    title := if row.title = loaded.title then old.title else row.title
    description := if row.description = loaded.description then old.description else row.description
    bulletPoints :=
      if row.bulletPoints = loaded.bulletPoints then old.bulletPoints else row.bulletPoints
    qualityStatus :=
      if row.qualityStatus = loaded.qualityStatus then old.qualityStatus else row.qualityStatus }

/-- A text that a human has saved as reviewed is put on record. -/
def noted (human : Bool) (row : ListingContent) (reviews : List (ℕ × ContentCopy)) :
    List (ℕ × ContentCopy) :=
  if human ∧ row.qualityStatus = .reviewed then reviews ++ [(row.id, row.copy)] else reviews

/-- `save`: the changes of a row that was read. -/
def save (human : Bool) (loaded row : ListingContent) : ContentWork ListingContent :=
  .update (fun _ => [.content loaded.id])
    (fun _ d => { d with
      contents := alter ListingContent.id loaded.id (flushed loaded row) d.contents
      reviews := noted human row d.reviews })
    fun _ _ => row

/-- The id is taken. -/
def idTaken (d : ContentTables) (row : ListingContent) : Bool :=
  d.contents.any fun old => old.id = row.id

/-- `add`. -/
def add (human : Bool) (row : ListingContent) : ContentWork ListingContent := do
  let (known, sameId) ← .update (fun _ => [.content row.id, .lang row.listingId row.lang])
    (fun _ d =>
      if (getActive d row.listingId row.lang).isSome ∨ idTaken d row then d
      else { d with contents := d.contents ++ [row], reviews := noted human row d.reviews })
    fun _ d => ((getActive d row.listingId row.lang).isSome, idTaken d row)
  if known then .fail (.app 40012 "该语言的文案已存在")
  else if sameId then .fail (.integrity "pk_listing_content")
  else return row

/-! ### Requests -/

/-- A text that a human saves. -/
structure ListingContentSave where
  listingId : ℕ
  lang : String
  title : String := ""
  description : String := ""
  bulletPoints : List String := []
  confirmReview : Bool := false

/-- A translation that is asked for. The schema checks that the languages differ. -/
structure MachineDraftCreate where
  listingId : ℕ
  sourceLang : String
  targetLang : String
  differ : sourceLang ≠ targetLang := by decide

/-- `listings.get_or_404`. -/
def listingOr404 (listingId : ℕ) : ContentWork Unit := do
  let found ← .select fun d => d.listings.contains listingId
  if found then return () else .fail .notFound

/-- The row that is to be written, as it is read. -/
def load (row : ContentTables → Option ListingContent) : ContentWork (Option ListingContent) := do
  let row ← .select row
  .remember fun l => { l with loaded := row }
  return row

def saveHuman (payload : ListingContentSave) : ContentWork ListingContent := do
  listingOr404 payload.listingId
  let row ← load fun d => getActive d payload.listingId payload.lang
  let newId ← .query fun l _ => l.newId
  let status := humanStatus (row.map ListingContent.qualityStatus)
    (textEmpty payload.title payload.description payload.bulletPoints) payload.confirmReview
  match row with
  | none =>
    add true
      { id := newId
        listingId := payload.listingId
        lang := payload.lang
        title := payload.title
        description := payload.description
        bulletPoints := payload.bulletPoints
        qualityStatus := status }
  | some row =>
    save true row
      { row with
        title := payload.title
        description := payload.description
        bulletPoints := payload.bulletPoints
        qualityStatus := status }

/-- `list_for_pair`. -/
def listForPair (d : ContentTables) (sourceLang targetLang : String) : List (String × String) :=
  ((d.glossary.filter fun term => !term.deleted && term.sourceLang = sourceLang &&
    term.targetLang = targetLang).insertionSort fun a b => a.id ≤ b.id).map fun term =>
      (term.sourceTerm, term.targetTerm)

section machine

-- what the terms of the glossary make of a text
variable (applyGlossary : List (String × String) → String → String)

def machineDraft (payload : MachineDraftCreate) : ContentWork ListingContent := do
  listingOr404 payload.listingId
  let source ← .select fun d => getActive d payload.listingId payload.sourceLang
  match source with
  | none => .fail (.paramInvalid "源语言还没有文案")
  | some source =>
    if textEmpty source.title source.description source.bulletPoints then
      .fail (.paramInvalid "源语言还没有文案")
    else
      let pairs ← .select fun d => listForPair d payload.sourceLang payload.targetLang
      let row ← load fun d => getActive d payload.listingId payload.targetLang
      let newId ← .query fun l _ => l.newId
      match row with
      | none =>
        add false
          { id := newId
            listingId := payload.listingId
            lang := payload.targetLang
            title := applyGlossary pairs source.title
            description := applyGlossary pairs source.description
            bulletPoints := source.bulletPoints.map (applyGlossary pairs)
            qualityStatus := .mtDraft }
      | some row =>
        save false row
          { row with
            title := applyGlossary pairs source.title
            description := applyGlossary pairs source.description
            bulletPoints := source.bulletPoints.map (applyGlossary pairs)
            qualityStatus := .mtDraft }

def publish (contentId : ℕ) : ContentWork ListingContent := do
  let row ← load fun d => d.contents.find? fun row => !row.deleted && row.id = contentId
  match row with
  | none => .fail .notFound
  | some row =>
    match assertPublishable row.qualityStatus row.title with
    | .error e => .fail e
    | .ok () => save false row { row with qualityStatus := .published }

/-- A request about the texts. -/
inductive ContentRequest
  | saveHuman (payload : ListingContentSave)
  | machineDraft (payload : MachineDraftCreate)
  | publish (contentId : ℕ)

def ContentRequest.work : ContentRequest → ContentWork ListingContent
  | saveHuman payload => Locale.saveHuman payload
  | machineDraft payload => Locale.machineDraft applyGlossary payload
  | publish contentId => Locale.publish contentId

end machine

/-- The text last reviewed of a row. -/
def lastReview (reviews : List (ℕ × ContentCopy)) (id : ℕ) : Option ContentCopy :=
  ((reviews.filter fun r => r.1 = id).map Prod.snd).getLast?

/-- A text that counts as reviewed or is published is the one last reviewed. -/
structure Honest (d : ContentTables) : Prop where
  keyed : Keyed ListingContent.id d.contents
  reviewed : ∀ row ∈ d.contents, row.qualityStatus = .reviewed ∨ row.qualityStatus = .published →
    lastReview d.reviews row.id = some row.copy

/-- The row that is written is as it was read. -/
def FoundAsRead (l : ContentSession) (d : ContentTables) : Prop :=
  ∀ row ∈ l.loaded, row ∈ d.contents

instance (l : ContentSession) (d : ContentTables) : Decidable (FoundAsRead l d) :=
  inferInstanceAs (Decidable (∀ row ∈ l.loaded, row ∈ d.contents))

/-- What a request with these locks commits: rows that it has not locked stay as they are. -/
structure Commits (ls : List ContentKey) (d d' : ContentTables) : Prop where
  honest : Honest d'
  stays : ∀ row ∈ d.contents, .content row.id ∉ ls → row ∈ d'.contents
  stayed : ∀ row ∈ d'.contents, .content row.id ∉ ls → row ∈ d.contents

/-! ### Rows that are locked -/

variable {ls : List ContentKey} {d : ContentTables} {l : ContentSession}

/-- A row stays as it is while a request has locked it. -/
lemma stable_row {row : ListingContent} (h : .content row.id ∈ ls) :
    Stable Honest Commits ls fun d => row ∈ d.contents :=
  fun _ _ _ _ hrow hdisj hc => hc.stays row hrow fun hmem => hdisj h hmem

/-- An id stays free while a request has locked it. -/
lemma stable_free {id : ℕ} (h : .content id ∈ ls) :
    Stable Honest Commits ls fun d => ∀ row ∈ d.contents, row.id ≠ id := by
  rintro d d' ls' _ hfree hdisj hc row hrow rfl
  exact hfree row (hc.stayed row hrow fun hmem => hdisj h hmem) rfl

@[simp] lemma id_flushed (loaded row old : ListingContent) : (flushed loaded row old).id = old.id :=
  rfl

/-- The changes of a row, written over what was read of it, are the row. -/
lemma flushed_self (loaded row : ListingContent) :
    (flushed loaded row loaded).copy = row.copy ∧
      (flushed loaded row loaded).qualityStatus = row.qualityStatus := by
  have keep : ∀ {α : Type} [DecidableEq α] (new old : α), (if new = old then old else new) = new :=
    fun new old => ite_eq_right_iff.2 Eq.symm
  simp [flushed, ListingContent.copy, keep]

lemma lastReview_noted_self {human : Bool} {row : ListingContent} (hhuman : human = true)
    (hreviewed : row.qualityStatus = .reviewed) (reviews : List (ℕ × ContentCopy)) :
    lastReview (noted human row reviews) row.id = some row.copy := by
  simp [lastReview, noted, hhuman, hreviewed]

lemma lastReview_noted_of_ne {human : Bool} {row : ListingContent} {id : ℕ} (h : row.id ≠ id)
    (reviews : List (ℕ × ContentCopy)) :
    lastReview (noted human row reviews) id = lastReview reviews id := by
  unfold lastReview noted
  split_ifs
  · simp [h]
  · rfl

/-- The row may be written: it does not count as reviewed, a human has just reviewed it, or it is
what was last reviewed. -/
def MayWrite (human : Bool) (row : ListingContent) (d : ContentTables) : Prop :=
  row.qualityStatus = .reviewed ∨ row.qualityStatus = .published →
    human = true ∧ row.qualityStatus = .reviewed ∨
      (human = false ∧ lastReview d.reviews row.id = some row.copy)

lemma MayWrite.lastReview {human : Bool} {row : ListingContent} (h : MayWrite human row d)
    (hstatus : row.qualityStatus = .reviewed ∨ row.qualityStatus = .published) :
    lastReview (noted human row d.reviews) row.id = some row.copy := by
  rcases h hstatus with ⟨hhuman, hreviewed⟩ | ⟨hmachine, hlast⟩
  · exact lastReview_noted_self hhuman hreviewed _
  · simpa [noted, hmachine] using hlast

/-- Writing a row that is as it was read. -/
lemma commits_save {human : Bool} {loaded row : ListingContent} (hd : Honest d)
    (hid : row.id = loaded.id) (hloaded : loaded ∈ d.contents) (hmay : MayWrite human row d)
    (hlock : .content loaded.id ∈ ls) :
    Commits ls d { d with
      contents := alter ListingContent.id loaded.id (flushed loaded row) d.contents
      reviews := noted human row d.reviews } := by
  constructor
  · refine ⟨hd.keyed.alter fun r => id_flushed loaded row r, fun r hr hstatus => ?_⟩
    obtain ⟨old, hold, rfl⟩ := mem_alter.1 hr
    by_cases hsame : old.id = loaded.id
    · obtain rfl := hd.keyed.eq_of_key_eq hold hloaded hsame
      obtain ⟨hcopy, hsta⟩ := flushed_self old row
      rw [if_pos rfl] at hstatus ⊢
      rw [hsta] at hstatus
      rw [hcopy, id_flushed, ← hid]
      exact hmay.lastReview hstatus
    · rw [if_neg hsame] at hstatus ⊢
      rw [lastReview_noted_of_ne fun h => hsame (by rw [← h, hid])]
      exact hd.reviewed old hold hstatus
  · intro r hr hnot
    apply mem_alter_of_ne hr
    intro hsame
    rw [hsame] at hnot
    exact hnot hlock
  · intro r hr hnot
    obtain ⟨old, hold, rfl⟩ := mem_alter.1 hr
    by_cases hsame : old.id = loaded.id
    · rw [if_pos hsame, id_flushed, hsame] at hnot
      exact absurd hlock hnot
    · rw [if_neg hsame]
      exact hold

/-- Adding a row whose id is free. -/
lemma commits_add {human : Bool} {row : ListingContent} (hd : Honest d)
    (hfree : ∀ r ∈ d.contents, r.id ≠ row.id) (hmay : MayWrite human row d)
    (hlock : .content row.id ∈ ls) :
    Commits ls d { d with
      contents := d.contents ++ [row]
      reviews := noted human row d.reviews } := by
  constructor
  · refine ⟨hd.keyed.append_singleton hfree, fun r hr hstatus => ?_⟩
    rcases List.mem_append.1 hr with hr | hr
    · show lastReview (noted human row d.reviews) r.id = some r.copy
      rw [lastReview_noted_of_ne (hfree r hr).symm]
      exact hd.reviewed r hr hstatus
    · obtain rfl := List.mem_singleton.1 hr
      exact hmay.lastReview hstatus
  · exact fun r hr _ => List.mem_append_left _ hr
  · intro r hr hnot
    rcases List.mem_append.1 hr with hr | hr
    · exact hr
    · obtain rfl := List.mem_singleton.1 hr
      exact absurd hlock hnot

/-! ### Outlines -/

/-- Changing the row that was read. -/
lemma outline_save {human : Bool} {loaded row : ListingContent} (hl : l.loaded = some loaded)
    (hid : row.id = loaded.id)
    (hmay : ∀ d, Honest d → loaded ∈ d.contents → MayWrite human row d) :
    Outline Honest Commits FoundAsRead (save human loaded row) l (fun d => d) [] fun _ => True := by
  refine fun d _ _ => ⟨fun _ => True, trivial, stable_true _, fun d' _ _ hfound => ?_⟩
  refine ⟨fun d => loaded ∈ d.contents, hfound loaded hl, stable_row (by simp), ?_⟩
  exact fun d hd hloaded => commits_save hd hid hloaded (hmay d hd hloaded) (by simp)

/-- Adding a row that was not there. -/
lemma outline_add {human : Bool} {row : ListingContent} (hmay : ∀ d, MayWrite human row d) :
    Outline Honest Commits FoundAsRead (add human row) l (fun d => d) [] fun _ => True := by
  refine fun d _ _ => ⟨fun _ => True, trivial, stable_true _, fun d' _ _ _ => ?_⟩
  by_cases hknown : (getActive d' row.listingId row.lang).isSome = true
  · refine ⟨fun _ => True, trivial, stable_true _, ?_⟩
    dsimp only
    rw [hknown]
    trivial
  · by_cases htaken : idTaken d' row = true
    · refine ⟨fun _ => True, trivial, stable_true _, ?_⟩
      dsimp only
      rw [Bool.eq_false_iff.2 hknown, htaken]
      trivial
    · refine ⟨fun d => ∀ r ∈ d.contents, r.id ≠ row.id, ?_, stable_free (by simp), ?_⟩
      · simpa [idTaken] using htaken
      · dsimp only
        rw [Bool.eq_false_iff.2 hknown, Bool.eq_false_iff.2 htaken]
        intro d hd hfree
        show Commits _ d (if _ then d else _)
        split_ifs
        · exact ⟨hd, fun _ hr _ => hr, fun _ hr _ => hr⟩
        · exact commits_add hd hfree (hmay d) (by simp)

/-- Nothing is known of what was read. -/
lemma outline_select {α β : Type} {f : ContentTables → β} {k : β → ContentWork α}
    (h : ∀ b, Outline Honest Commits FoundAsRead (k b) l (fun d => d) [] fun _ => True) :
    Outline Honest Commits FoundAsRead ((Prog.select f).bind k) l (fun d => d) [] fun _ => True :=
  fun d _ _ => ⟨fun _ => True, trivial, stable_true _, h (f d)⟩

lemma outline_load {α : Type} {row : ContentTables → Option ListingContent}
    {k : Option ListingContent → ContentWork α}
    (h : ∀ row, Outline Honest Commits FoundAsRead (k row) { l with loaded := row } (fun d => d) []
      fun _ => True) :
    Outline Honest Commits FoundAsRead ((load row).bind k) l (fun d => d) [] fun _ => True :=
  fun d _ _ => ⟨fun _ => True, trivial, stable_true _, h (row d)⟩

lemma outline_listingOr404 {α : Type} {listingId : ℕ} {k : Unit → ContentWork α}
    (h : Outline Honest Commits FoundAsRead (k ()) l (fun d => d) [] fun _ => True) :
    Outline Honest Commits FoundAsRead ((listingOr404 listingId).bind k) l (fun d => d) []
      fun _ => True := by
  refine fun d _ _ => ⟨fun _ => True, trivial, stable_true _, ?_⟩
  show Outline _ _ _ ((if d.listings.contains listingId = true then return ()
    else .fail .notFound : ContentWork Unit).bind k) _ _ _ _
  cases d.listings.contains listingId with
  | false => trivial
  | true => exact h

lemma mayWrite_of_human {row : ListingContent} (h : row.qualityStatus ≠ .published) :
    MayWrite true row d := by
  rintro (hreviewed | hpublished)
  · exact .inl ⟨rfl, hreviewed⟩
  · exact absurd hpublished h

lemma humanStatus_ne_published (previous : Option QualityStatus) (empty confirmReview : Bool) :
    humanStatus previous empty confirmReview ≠ .published := by
  unfold humanStatus
  split_ifs <;> simp

lemma mayWrite_mtDraft {human : Bool} {row : ListingContent} (h : row.qualityStatus = .mtDraft) :
    MayWrite human row d := by
  rintro (hstatus | hstatus) <;> rw [h] at hstatus <;> cases hstatus

lemma outline_saveHuman (payload : ListingContentSave) :
    Outline Honest Commits FoundAsRead (saveHuman payload) l (fun d => d) [] fun _ => True := by
  apply outline_listingOr404
  apply outline_load
  intro row
  refine fun d _ _ => ⟨fun _ => True, trivial, stable_true _, ?_⟩
  cases row with
  | none => exact outline_add fun d => mayWrite_of_human (humanStatus_ne_published _ _ _)
  | some row =>
    exact outline_save rfl rfl fun d _ _ => mayWrite_of_human (humanStatus_ne_published _ _ _)

lemma outline_machineDraft (applyGlossary : List (String × String) → String → String)
    (payload : MachineDraftCreate) :
    Outline Honest Commits FoundAsRead (machineDraft applyGlossary payload) l (fun d => d) []
      fun _ => True := by
  apply outline_listingOr404
  apply outline_select
  intro source
  cases source with
  | none => trivial
  | some source =>
    dsimp only
    split_ifs
    · trivial
    · apply outline_select
      intro pairs
      apply outline_load
      intro row
      refine fun d _ _ => ⟨fun _ => True, trivial, stable_true _, ?_⟩
      cases row with
      | none => exact outline_add fun d => mayWrite_mtDraft rfl
      | some row => exact outline_save rfl rfl fun d _ _ => mayWrite_mtDraft rfl

lemma outline_publish (contentId : ℕ) :
    Outline Honest Commits FoundAsRead (publish contentId) l (fun d => d) [] fun _ => True := by
  apply outline_load
  intro row
  cases row with
  | none => trivial
  | some row =>
    dsimp only
    cases hpublishable : assertPublishable row.qualityStatus row.title with
    | error e => trivial
    | ok u =>
      have hreviewed : row.qualityStatus = .reviewed := by
        by_contra hne
        simp [assertPublishable, hne] at hpublishable
      refine outline_save rfl rfl fun d hd hrow _ => .inr ⟨rfl, ?_⟩
      exact hd.reviewed row hrow (.inl hreviewed)

/-- **What counts as reviewed.** Whatever requests are at work at once, as long as every change
finds its row as it was read, a text that counts as reviewed or is published is the one that a human
has last saved as reviewed. -/
theorem honest_contents {ι : Type} [Fintype ι] [DecidableEq ι] {d : ContentTables} (hd : Honest d)
    (applyGlossary : List (String × String) → String → String) (req : ι → ContentRequest)
    (l : ι → ContentSession) (sched : List ι)
    (hfound : World.AllFind FoundAsRead
      ⟨d, fun i => Tx.start ((req i).work applyGlossary) (l i)⟩ sched) :
    Honest ((World.mk d fun i => Tx.start ((req i).work applyGlossary) (l i)).run sched).committed := by
  refine World.outlined (G := Commits) (fun _ _ _ _ hc => Commits.honest hc) hd (fun i => ?_) hfound
  cases req i with
  | saveHuman payload => exact outline_saveHuman payload
  | machineDraft payload => exact outline_machineDraft applyGlossary payload
  | publish contentId => exact outline_publish contentId

/-! ### A draft between reading and publishing -/

/-- A listing with a text that was reviewed, and a text in another language. -/
def oneReviewed : ContentTables where
  listings := [1]
  contents :=
    [{ id := 1, listingId := 1, lang := "de", title := "Hemd", qualityStatus := .reviewed },
      { id := 2, listingId := 1, lang := "en", title := "shirt", qualityStatus := .untranslated }]
  reviews := [(1, { title := "Hemd" })]

lemma honest_oneReviewed : Honest oneReviewed := by
  refine ⟨by decide, ?_⟩
  simp [oneReviewed, lastReview, ListingContent.copy]

/-- One request publishes the text, the other one drafts it anew. -/
def publishAndDraft : Bool → ContentRequest
  | true => .publish 1
  | false => .machineDraft ⟨1, "en", "de", by decide⟩

def noTerms (_ : List (String × String)) (text : String) : String := text

def someSession (_ : Bool) : ContentSession := { newId := 3 }

def contentRace : World Bool ContentSession ContentTables ContentKey ServiceError ListingContent :=
  ⟨oneReviewed, fun i => Tx.start ((publishAndDraft i).work noTerms) (someSession i)⟩

/-- Publishing comes first. -/
theorem honest_contents_inTurn :
    Honest (contentRace.run (List.replicate 6 true ++ List.replicate 10 false)).committed :=
  honest_contents honest_oneReviewed noTerms publishAndDraft someSession _ (by decide +kernel)

/-- What was reviewed is published with the text of the draft. -/
def sneaked : ListingContent where
  id := 1
  listingId := 1
  lang := "de"
  title := "shirt"
  qualityStatus := .published

/-- The draft is written after the text is read, and before it is published. -/
theorem not_honest_contents_draft :
    ¬ Honest (contentRace.run ([true] ++ List.replicate 10 false ++
      List.replicate 6 true)).committed := by
  intro h
  have hrow : sneaked ∈ (contentRace.run ([true] ++ List.replicate 10 false ++
      List.replicate 6 true)).committed.contents := by
    decide +kernel
  exact absurd (h.reviewed sneaked hrow (.inr rfl)) (by decide +kernel)

end CrossPilot.Locale
