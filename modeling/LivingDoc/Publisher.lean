import LivingDoc.Commentary
import LivingDoc.Draft
import LivingDoc.Event
import LivingDoc.Page.Basic
import LivingDoc.Slug
import LivingDoc.Vocabulary

namespace LivingDoc

structure Edition where
  page : Option Page
  events : List Event
deriving DecidableEq

/-- A section of which it is not known yet whether it goes onto the page. -/
structure Entry where
  /-- The tags as they stand in the document. -/
  written : List String
  draft : Section
  tagging : Tagging
deriving DecidableEq

namespace Entry

variable (e : Entry)

/-- The tags that a section is judged by, shown or not. -/
def tags : List String := e.written ++ e.tagging.hidden ++ e.tagging.tags

def onPage (id : String) (retains : Bool) : Section :=
  { e.draft with
    tags := e.tagging.tags
    owner := some id
    steps := if retains then e.draft.steps else e.draft.steps.map ({ · with remarks := [] }) }

def findings : List Event := e.tagging.findings.map (.tagFound e.draft.title)

end Entry

structure Publisher where
  settings : Settings
  /-- The words that open steps; where none are given the language of the document decides. -/
  words : Option Gherkin.StepWords
  slugOf : String → String

namespace Publisher

def defaultLanguage : String := "en"

def ofSettings (settings : Settings) : Publisher := ⟨settings, none, slug⟩

def remarksOf (comments : List Gherkin.Comment) : List Remark :=
  (comments.map fun c ↦ ⟨Text.trimmed c.text, c.position, .unattached⟩).mergeSort
    fun r s ↦ r.position.le s.position

variable (p : Publisher)

def drafter (f : Gherkin.Feature) : Drafter where
  words := p.words.getD (Vocabulary.ofLanguage (f.language.getD defaultLanguage)).words
  slugOf := p.slugOf
  hide := p.settings.hide

def commentary (doc : Gherkin.Document) (draft : Draft) : Commentary where
  sections := draft.sections
  remarks := if p.settings.remarks.collects then remarksOf doc.comments else []

/-- The remarks that found no step. -/
def strays (placed : List Placed) : List Event :=
  placed.filterMap fun q ↦
    match q.site with
    | .aboveSections => some (.remarkAboveSections q.remark.position.line)
    | .withoutStep => some (.remarkWithoutStep q.remark.position.line)
    | .step _ _ _ => none

def taggings (c : Commentary) : List Tagging :=
  if p.settings.remarks.derives then c.taggings p.settings.hide
  else c.sections.map fun s ↦ .start s.tags

def entries (f : Gherkin.Feature) (c : Commentary) : List Entry :=
  List.zipWith (fun child (s, t) ↦ ⟨child.tags, s, t⟩) f.children
    (c.sections.zip (p.taggings c))

def excludes (e : Entry) : Bool := p.settings.exclude.matchesAny e.tags

def page (f : Gherkin.Feature) (background : Option Section) (remarks : List Remark)
    (entries : List Entry) : Page :=
  let id := p.slugOf f.name
  let retains := p.settings.remarks.retains
  { id := id
    title := f.name
    description := f.description.getD ""
    tags := p.settings.hide.visible f.tags
    background := background.map ({ · with owner := some id })
    sections := entries.map (·.onPage id retains)
    remarks := if retains then remarks else []
    language := f.language.getD defaultLanguage }

/-- The page of a feature, if anything is left to show. -/
def edit (f : Gherkin.Feature) (background : Option Section) (remarks : List Remark)
    (entries : List Entry) : Edition :=
  if p.settings.exclude.matchesAny f.tags then ⟨none, [.featureExcluded f.name]⟩
  else
    let out := entries.filter p.excludes
    let kept := entries.filter fun e ↦ !p.excludes e
    let losses := out.map fun e ↦
      .sectionExcluded f.name e.draft.title e.draft.position.line
    if !entries.isEmpty && kept.isEmpty then
      ⟨none, losses ++ [.nothingLeft f.name entries.length]⟩
    else
      let page := p.page f background remarks kept
      ⟨some page, losses ++ [.published f.name kept.length out.length page.remarks.length]⟩

def finish (doc : Gherkin.Document) (draft : Draft) : Edition :=
  let c := p.commentary doc draft
  let entries := p.entries doc.feature c.attached
  let edition := p.edit doc.feature draft.background c.attached.remarks entries
  { edition with events := strays c.placed ++ entries.flatMap Entry.findings ++ edition.events }

/-- What comes of a document, or its first offence. -/
def publish (doc : Gherkin.Document) : Except DraftError Edition :=
  ((p.drafter doc.feature).feature doc.feature).map (p.finish doc)

end Publisher

end LivingDoc
