import LivingDoc.Proofs.Tree

namespace LivingDoc

open Gherkin (Row)

/-- What stops a draft whose tables are checked. -/
inductive Stop where
  | offence (e : DraftError)
  | emptyTable
deriving DecidableEq

def askRows (rows : List Row) : Except Stop Unit :=
  if rows.isEmpty then .error .emptyTable else .ok ()

theorem askRows_eq {rows : List Row} (h : rows ≠ []) : askRows rows = .ok () := by
  rw [askRows, if_neg (by simpa using h)]

section Errors

variable {α β ε ε' : Type} {g : ε → ε'}

theorem bind_mapError (x : Except ε α) (f : α → Except ε β) :
    (x.mapError g >>= fun a ↦ (f a).mapError g) = (x >>= f).mapError g := by
  cases x <;> rfl

theorem mapM_mapError {f : α → Except ε β} {f' : α → Except ε' β} {l : List α}
    (h : ∀ a ∈ l, f' a = (f a).mapError g) : l.mapM f' = (l.mapM f).mapError g := by
  induction l with
  | nil => rfl
  | cons a l ih =>
    obtain ⟨ha, hl⟩ := List.forall_mem_cons.mp h
    rw [List.mapM_cons, List.mapM_cons, ha, ih hl]
    cases f a with
    | error e => rfl
    | ok b => cases l.mapM f <;> rfl

end Errors

namespace Drafter

variable (d : Drafter)

def checkedAttachment : Gherkin.Argument → Except Stop Attachment
  | .table rows => do
    askRows rows
    return .table (.ofRows rows)
  | .docString text => return .docString text

def checkedStep (s : Gherkin.Step) : Except Stop Step :=
  match d.words.kindOf s.keyword with
  | .error e => .error (.offence (.unknownKeyword e.word s.position.line))
  | .ok kind => do
    let attachment ← s.argument.mapM checkedAttachment
    return {
      position := s.position
      kind := kind
      keyword := s.keyword
      text := s.text
      attachment := attachment
      remarks := [] }

def checkedExamples (e : Gherkin.Examples) : Except Stop Examples := do
  askRows e.rows
  return examples e

def sectionOf (s : Gherkin.Scenario) (steps : List Step) (topic : Topic) : Section where
  title := s.name
  description := s.description.getD ""
  position := s.position
  tags := d.hide.visible s.tags
  steps := steps
  owner := none
  topic := topic

def checkedBackground (b : Gherkin.Background) : Except Stop Section := do
  let steps ← b.steps.mapM d.checkedStep
  return d.sectionOf ⟨b.name, b.description, [], b.steps, b.position⟩ steps .background

def checkedChild : Gherkin.Child → Except Stop Section
  | .scenario s => do
    let steps ← s.steps.mapM d.checkedStep
    return d.sectionOf s steps (.scenario (d.slugOf s.name))
  | .outline s e => do
    let steps ← s.steps.mapM d.checkedStep
    let examples ← e.mapM checkedExamples
    return d.sectionOf s steps (.outline (d.slugOf s.name) examples)
  | .rule _ p => .error (.offence (.ruleFound p.line))

def checkedFeature (f : Gherkin.Feature) : Except Stop Draft := do
  let background ← f.background.mapM d.checkedBackground
  let sections ← f.children.mapM d.checkedChild
  return { background, sections }

variable {d} {t : Gherkin.Step} {f : Gherkin.Feature}

theorem checkedStep_eq (h : t.Filled) : d.checkedStep t = (d.step t).mapError .offence := by
  rw [checkedStep, step]
  cases d.words.kindOf t.keyword with
  | error e => rfl
  | ok kind =>
    have hargument : t.argument.mapM checkedAttachment = .ok (t.argument.map attachment) := by
      cases ha : t.argument with
      | none => rfl
      | some a =>
        cases a with
        | docString text => rfl
        | table rows =>
          rw [Option.mapM_some, checkedAttachment, askRows_eq (h rows ha)]
          rfl
    dsimp only
    rw [hargument]
    rfl

theorem checkedExamples_eq {e : Gherkin.Examples} (h : e.rows ≠ []) :
    checkedExamples e = .ok (examples e) := by
  rw [checkedExamples, askRows_eq h]
  rfl

theorem mapM_checkedStep {l : List Gherkin.Step} (h : ∀ t ∈ l, t.Filled) :
    l.mapM d.checkedStep = (l.mapM d.step).mapError .offence :=
  mapM_mapError fun t ht ↦ checkedStep_eq (h t ht)

theorem mapM_checkedExamples {l : List Gherkin.Examples} (h : ∀ e ∈ l, e.rows ≠ []) :
    l.mapM checkedExamples = .ok (l.map examples) := by
  induction l with
  | nil => rfl
  | cons e l ih =>
    obtain ⟨he, hl⟩ := List.forall_mem_cons.mp h
    rw [List.mapM_cons, checkedExamples_eq he, ih hl]
    rfl

theorem about_eq_bind (topic : Topic) (s : Gherkin.Scenario) :
    d.about topic s = s.steps.mapM d.step >>= fun steps ↦ .ok (d.sectionOf s steps topic) := rfl

theorem checkedBackground_eq {b : Gherkin.Background} (h : ∀ t ∈ b.steps, t.Filled) :
    d.checkedBackground b = (d.background b).mapError .offence := by
  rw [checkedBackground, mapM_checkedStep h, background, about_eq_bind, ← bind_mapError]
  rfl

theorem checkedChild_eq {c : Gherkin.Child} (h : c.Filled) :
    d.checkedChild c = (d.child c).mapError .offence := by
  cases c with
  | scenario s =>
    have hs : s.steps.mapM d.checkedStep = (s.steps.mapM d.step).mapError .offence :=
      mapM_checkedStep h.steps
    rw [checkedChild, hs, child, scenario, about_eq_bind, ← bind_mapError]
    rfl
  | outline s e =>
    have hs : s.steps.mapM d.checkedStep = (s.steps.mapM d.step).mapError .offence :=
      mapM_checkedStep h.steps
    have he : e.mapM checkedExamples = .ok (e.map examples) := mapM_checkedExamples h.examples
    rw [checkedChild, hs, he, child, outline, about_eq_bind, ← bind_mapError]
    rfl
  | rule name p => rfl

theorem checkedFeature_eq (h : f.Filled) :
    d.checkedFeature f = (d.feature f).mapError .offence := by
  have hbackground : f.background.mapM d.checkedBackground =
      (f.background.mapM d.background).mapError .offence := by
    cases hb : f.background with
    | none => rfl
    | some b =>
      have hsteps : ∀ t ∈ b.steps, t.Filled := fun t ht ↦
        h.background t (List.mem_flatMap.mpr ⟨b, by simp [hb], ht⟩)
      rw [Option.mapM_some, Option.mapM_some, checkedBackground_eq hsteps]
      cases d.background b <;> rfl
  have hchildren : f.children.mapM d.checkedChild = (f.children.mapM d.child).mapError .offence :=
    mapM_mapError fun c hc ↦ checkedChild_eq (h.children c hc)
  rw [checkedFeature, hbackground, hchildren, feature]
  cases f.background.mapM d.background with
  | error e => rfl
  | ok b => cases f.children.mapM d.child <;> rfl

end Drafter

/-- What comes of a document whose tables are checked when they are built. -/
def Publisher.checked (p : Publisher) (doc : Gherkin.Document) : Except Stop Edition :=
  ((p.drafter doc.feature).checkedFeature doc.feature).map (p.finish doc)

theorem Publisher.checked_eq (p : Publisher) {doc : Gherkin.Document} (h : doc.feature.Filled) :
    p.checked doc = (p.publish doc).mapError .offence := by
  rw [checked, Drafter.checkedFeature_eq h, publish]
  cases (p.drafter doc.feature).feature doc.feature <;> rfl

/-- The tree of a feature holds all that was read and nothing else: each scenario and each rule once
and in order, tags with their at sign, tables with their rows. So no table of it is ever found
empty. -/
theorem Gherkin.Raw.Feature.toFeature_grows (f : Gherkin.Raw.Feature) (language : Option String) :
    f.Grows (f.toFeature language) ∧ (f.toFeature language).language = language ∧
      (∀ tag ∈ (f.toFeature language).allTags, tag.toList.head? = some '@') ∧
      (f.toFeature language).Filled ∧
      ∀ (p : Publisher) (comments : List Gherkin.Comment),
        p.checked ⟨f.toFeature language, comments⟩ =
          (p.publish ⟨f.toFeature language, comments⟩).mapError .offence := by
  have h := Gherkin.Raw.Feature.grows f language
  exact ⟨h, rfl, h.marked, h.filled, fun p comments ↦ p.checked_eq h.filled⟩

/-- Another tree is stopped by a table without rows. -/
example :
    let outline : Gherkin.Child :=
      .outline ⟨"Open", none, [], [], ⟨2, 3⟩⟩ [⟨none, none, [], [], ⟨3, 5⟩⟩]
    Drafter.checkedFeature ⟨⟨[], [], [], [], []⟩, id, .empty⟩
      ⟨"Doors", none, [], none, none, [outline], ⟨1, 1⟩⟩ = .error .emptyTable := rfl

end LivingDoc
