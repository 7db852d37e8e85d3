import LivingDoc.Proofs.Offence
import LivingDoc.Proofs.Publication

namespace LivingDoc

def Position.nowhere : Position := ⟨0, 0⟩

def Attachment.toArgument : Attachment → Gherkin.Argument
  | table t => .table t.rows
  | docString text => .docString text

def Step.toNode (t : Step) : Gherkin.Step :=
  ⟨t.keyword, t.text, t.attachment.map Attachment.toArgument, t.position⟩

def Examples.toNode (e : Examples) : Gherkin.Examples :=
  ⟨e.name, e.description, e.tags, e.table.rows, .nowhere⟩

namespace Section

variable (s : Section)

def toScenario : Gherkin.Scenario :=
  ⟨s.title, some s.description, s.tags, s.steps.map Step.toNode, s.position⟩

def toBackground : Gherkin.Background :=
  ⟨s.title, some s.description, s.steps.map Step.toNode, s.position⟩

def toChild : Gherkin.Child :=
  match s.topic with
  | .scenario _ | .background => .scenario s.toScenario
  | .outline _ examples => .outline s.toScenario (examples.map Examples.toNode)

end Section

def Page.toFeature (page : Page) : Gherkin.Feature where
  name := page.title
  description := some page.description
  tags := page.tags
  language := some page.language
  background := page.background.map Section.toBackground
  children := page.sections.map Section.toChild
  position := .nowhere

namespace Gherkin

def Background.told (b : Background) : Background :=
  { b with description := some (b.description.getD "") }

def Scenario.told (s : Scenario) : Scenario :=
  { s with description := some (s.description.getD "") }

def Examples.told (e : Examples) : Examples := { e with position := .nowhere }

def Child.told : Child → Child
  | scenario s => .scenario s.told
  | outline s e => .outline s.told (e.map Examples.told)
  | rule name place => .rule name place

/-- A feature as a page tells it. An absent description is told as an empty one, and an absent
language as the default; the places of the feature and of blocks of examples are not told. -/
def Feature.told (f : Feature) : Feature where
  name := f.name
  description := some (f.description.getD "")
  tags := f.tags
  language := some (f.language.getD Publisher.defaultLanguage)
  background := f.background.map Background.told
  children := f.children.map Child.told
  position := .nowhere

def Child.examples : Child → List Examples
  | outline _ e => e
  | scenario _ | rule _ _ => []

def Feature.steps (f : Feature) : List Step := f.backgroundSteps ++ f.children.flatMap Child.steps

/-- A feature that can be drafted, and whose tables have rows. -/
structure Feature.Sound (w : StepWords) (f : Feature) : Prop where
  rules : ∀ c ∈ f.children, ∀ name place, c ≠ .rule name place
  keywords : ∀ s ∈ f.steps, ∃ kind, w.kindOf s.keyword = .ok kind
  tables : ∀ s ∈ f.steps, ∀ rows, s.argument = some (.table rows) → rows ≠ []
  examples : ∀ c ∈ f.children, ∀ e ∈ c.examples, e.rows ≠ []

variable {f : Feature} {w : StepWords}

theorem Feature.Sound.offences_eq_nil (h : f.Sound w) : f.offences w = [] := by
  have hstep : ∀ s ∈ f.steps, s.offences w = [] := by
    intro s hs
    by_contra hne
    obtain ⟨u, hu⟩ := Step.offences_ne_nil.mp hne
    obtain ⟨kind, hk⟩ := h.keywords s hs
    rw [hk] at hu
    cases hu
  rw [offences, List.append_eq_nil_iff, List.flatMap_eq_nil_iff, List.flatMap_eq_nil_iff]
  refine ⟨fun s hs ↦ hstep s (List.mem_append_left _ hs), fun c hc ↦ ?_⟩
  have hsteps : ∀ s ∈ c.steps, s.offences w = [] := fun s hs ↦
    hstep s (List.mem_append_right _ (List.mem_flatMap.mpr ⟨c, hc, hs⟩))
  cases c with
  | scenario s | outline s e => exact List.flatMap_eq_nil_iff.mpr hsteps
  | rule name place => exact absurd rfl (h.rules _ hc name place)

end Gherkin

/-- A step retells its node: it carries a table with the same rows, or the same text, or nothing,
just as the node does, and all else can be read back. -/
structure Retells (t : Gherkin.Step) (u : Step) : Prop where
  node : u.toNode = t
  table : ∀ rows, t.argument = some (.table rows) ↔
    ∃ table, u.attachment = some (.table table) ∧ table.header :: table.data = rows
  docString : ∀ text, t.argument = some (.docString text) ↔ u.attachment = some (.docString text)

namespace Retells

variable {l : List Gherkin.Step} {m : List Step}

theorem map_toNode (h : List.Forall₂ Retells l m) : m.map Step.toNode = l := by
  induction h with
  | nil => rfl
  | cons ht _ ih => rw [List.map_cons, ht.node, ih]

theorem mapIdx_remarks (f : Nat → List Remark) (h : List.Forall₂ Retells l m) :
    List.Forall₂ Retells l (m.mapIdx fun j u ↦ { u with remarks := f j }) := by
  induction h generalizing f with
  | nil => exact .nil
  | cons ht _ ih =>
    rw [List.mapIdx_cons]
    exact .cons ⟨ht.node, ht.table, ht.docString⟩ (ih fun j ↦ f (j + 1))

end Retells

def Page.steps (page : Page) : List Step :=
  (page.background.toList ++ page.sections).flatMap Section.steps

/-- How a page mirrors a feature. -/
structure Page.Mirrors (page : Page) (slugOf : String → String) (f : Gherkin.Feature) : Prop where
  /-- All that a page can tell of the feature can be read back from it. -/
  tree : page.toFeature = f.told
  steps : List.Forall₂ Retells f.steps page.steps
  verdicts : ∀ s ∈ page.sections, ∀ e ∈ s.examples, ∀ row ∈ e.table.data, ∀ cell ∈ row,
    cell.verdict = none
  id : page.id = slugOf f.name
  slugs : ∀ s ∈ page.sections, s.slug = some (slugOf s.title)
  owners : ∀ s ∈ page.background.toList ++ page.sections, page.owns s

namespace Drafter

variable {d : Drafter} {t : Gherkin.Step} {u : Step}

theorem retells_of_step (h : d.step t = .ok u)
    (ht : ∀ rows, t.argument = some (.table rows) → rows ≠ []) : Retells t u := by
  obtain ⟨kind, -, rfl⟩ := step_eq_ok_iff.mp h
  obtain ⟨keyword, text, argument, position⟩ := t
  cases argument with
  | none => exact ⟨rfl, by simp, by simp⟩
  | some a =>
    cases a with
    | docString text => exact ⟨rfl, by simp [attachment], by simp [attachment]⟩
    | table rows =>
      have hrows : (Table.ofRows rows).header :: (Table.ofRows rows).data = rows :=
        Table.rows_ofRows (ht rows rfl)
      refine ⟨?_, fun rows' ↦ by simp [attachment, hrows], by simp [attachment]⟩
      simp [Step.toNode, attachment, Attachment.toArgument, Table.rows, hrows]

theorem retells_of_forall₂ {l : List Gherkin.Step} {m : List Step}
    (h : List.Forall₂ (fun t u ↦ d.step t = .ok u) l m)
    (ht : ∀ t ∈ l, ∀ rows, t.argument = some (.table rows) → rows ≠ []) :
    List.Forall₂ Retells l m :=
  ((List.forall₂_and_left _ _).mpr ⟨ht, h⟩).imp fun _ _ hu ↦ retells_of_step hu.2 hu.1

theorem toNode_examples {e : Gherkin.Examples} (h : e.rows ≠ []) :
    (examples e).toNode = e.told := by
  rw [examples, Examples.toNode, ExampleTable.rows_ofRows h, Gherkin.Examples.told]

theorem verdict_examples (e : Gherkin.Examples) :
    ∀ row ∈ (examples e).table.data, ∀ cell ∈ row, cell.verdict = none := by
  intro row hrow cell hcell
  obtain ⟨r, -, rfl⟩ := List.mem_map.mp hrow
  obtain ⟨v, -, rfl⟩ := List.mem_map.mp hcell
  rfl

theorem toBackground_of_mapM {b : Option Gherkin.Background} {s : Option Section}
    (h : b.mapM d.background = .ok s) (owner : Option String)
    (ht : ∀ t ∈ b.toList.flatMap Gherkin.Background.steps, ∀ rows,
      t.argument = some (.table rows) → rows ≠ []) :
    (s.map fun s ↦ { s with owner }).map Section.toBackground = b.map Gherkin.Background.told ∧
      List.Forall₂ Retells (b.toList.flatMap Gherkin.Background.steps)
        ((s.map fun s ↦ { s with owner }).toList.flatMap Section.steps) := by
  cases b with
  | none =>
    cases h
    exact ⟨rfl, .nil⟩
  | some b =>
    obtain ⟨s, hs, ⟨⟩⟩ := bind_eq_ok_iff.mp h
    obtain ⟨steps, hsteps, rfl⟩ := about_eq_ok_iff.mp hs
    simp only [Option.toList_some, List.flatMap_singleton, Option.map_some] at ht ⊢
    have hr := retells_of_forall₂ hsteps ht
    refine ⟨?_, hr⟩
    rw [Section.toBackground, Retells.map_toNode hr, Gherkin.Background.told]

end Drafter

namespace Publisher

variable {p : Publisher} {doc : Gherkin.Document} {draft : Draft} {child : Gherkin.Child} {k : Nat}
  {t : Section} {page : Page}

theorem Shows.toChild (ht : p.Shows doc draft child k t) (hhide : p.settings.hide = .empty)
    (hderives : p.settings.remarks.derives = false)
    (htables : ∀ s ∈ child.steps, ∀ rows, s.argument = some (.table rows) → rows ≠ [])
    (hexamples : ∀ e ∈ child.examples, e.rows ≠ []) :
    t.toChild = child.told ∧ List.Forall₂ Retells child.steps t.steps ∧
      ∀ e ∈ t.examples, ∀ row ∈ e.table.data, ∀ cell ∈ row, cell.verdict = none := by
  obtain ⟨s, hs, -, rfl⟩ := ht
  have htags : p.settings.hide.visible child.tags ++ p.derived doc draft child k = child.tags := by
    rw [derived_of_not hderives, hhide, TagFilter.visible_empty, List.append_nil]
  cases child with
  | rule name place => cases hs
  | scenario n =>
    obtain ⟨steps, hsteps, rfl⟩ := Drafter.about_eq_ok_iff.mp hs
    have hr := Retells.mapIdx_remarks (fun j ↦ if p.settings.remarks.retains then
      Placed.on (p.commentary doc draft).placed k j else [])
      (Drafter.retells_of_forall₂ hsteps htables)
    refine ⟨?_, hr, fun e he ↦ by cases he⟩
    rw [Section.toChild, Section.toScenario, htags, Retells.map_toNode hr]
    rfl
  | outline n examples =>
    obtain ⟨steps, hsteps, rfl⟩ := Drafter.about_eq_ok_iff.mp hs
    have hr := Retells.mapIdx_remarks (fun j ↦ if p.settings.remarks.retains then
      Placed.on (p.commentary doc draft).placed k j else [])
      (Drafter.retells_of_forall₂ hsteps htables)
    have hex : (examples.map Drafter.examples).map Examples.toNode =
        examples.map Gherkin.Examples.told := by
      rw [List.map_map]
      exact List.map_congr_left fun e he ↦ Drafter.toNode_examples (hexamples e he)
    refine ⟨?_, hr, fun e he ↦ ?_⟩
    · rw [Section.toChild, Section.toScenario, htags, Retells.map_toNode hr]
      exact congrArg (Gherkin.Child.outline _) hex
    · obtain ⟨n, -, rfl⟩ := List.mem_map.mp he
      exact Drafter.verdict_examples n

theorem matchesAny_empty (tags : List String) : TagFilter.empty.matchesAny tags = false := by
  simp [TagFilter.matchesAny, TagFilter.matchesTag_empty]

theorem included_of_empty (h : p.settings.exclude = .empty) :
    p.included doc draft = doc.feature.children.zipIdx := by
  rw [included, h]
  exact List.filter_eq_self.mpr fun ck _ ↦ by simp [matchesAny_empty]

theorem isSome_page_of_empty (hd : (p.drafter doc.feature).feature doc.feature = .ok draft)
    (h : p.settings.exclude = .empty) : ∃ page, (p.finish doc draft).page = some page := by
  have hkept : p.kept doc draft = [] → p.bearers doc draft = [] := by
    intro hk
    have hl := (forall₂_kept hd).length_eq
    rw [included_of_empty h, hk, List.length_zipIdx] at hl
    exact (bearers_eq_nil hd).mpr (List.length_eq_zero_iff.mp hl)
  rw [page_finish, if_neg]
  · exact ⟨_, rfl⟩
  · rw [h, matchesAny_empty]
    rintro (hf | ⟨hb, hk⟩)
    · cases hf
    · exact hb (hkept hk)

theorem flatMap_steps_retells {l : List Gherkin.Child} {m : List Section}
    (h : List.Forall₂ (fun c s ↦ List.Forall₂ Retells c.steps s.steps) l m) :
    List.Forall₂ Retells (l.flatMap Gherkin.Child.steps) (m.flatMap Section.steps) := by
  induction h with
  | nil => exact .nil
  | cons hs _ ih =>
    rw [List.flatMap_cons, List.flatMap_cons]
    exact List.rel_append hs ih

/-- A feature that can be drafted and whose tables have rows is published, and the page tells all
of it if no tag is hidden, excluded or derived. -/
theorem publish_mirrors (hhide : p.settings.hide = .empty) (hexclude : p.settings.exclude = .empty)
    (hderives : p.settings.remarks.derives = false)
    (hf : doc.feature.Sound (doc.feature.wordsOr p.words)) :
    ∃ e page, p.publish doc = .ok e ∧ e.page = some page ∧ page.Mirrors p.slugOf doc.feature := by
  have hfails := fails_publish p doc
  rw [hf.offences_eq_nil] at hfails
  obtain ⟨e, he⟩ : ∃ e, p.publish doc = .ok e := by
    cases hp : p.publish doc with
    | ok e => exact ⟨e, rfl⟩
    | error err => exact absurd ((hfails err).mp hp) (by simp)
  obtain ⟨draft, hd, rfl⟩ := publish_eq_ok.mp he
  obtain ⟨page, hp⟩ := isSome_page_of_empty hd hexclude
  refine ⟨_, page, he, hp, ?_⟩
  have hshows : List.Forall₂ (fun ck t ↦ p.Shows doc draft ck.1 ck.2 t)
      doc.feature.children.zipIdx page.sections := included_of_empty hexclude ▸ forall₂_shows hd hp
  have hmem : ∀ ck ∈ doc.feature.children.zipIdx, ck.1 ∈ doc.feature.children :=
    fun ck hck ↦ List.mem_of_getElem? (List.mem_zipIdx_iff_getElem?.mp hck)
  have hchild : List.Forall₂ (fun c t ↦ Section.toChild t = c.told ∧
      List.Forall₂ Retells c.steps t.steps ∧
      ∀ e ∈ t.examples, ∀ row ∈ e.table.data, ∀ cell ∈ row, cell.verdict = none)
      doc.feature.children page.sections := by
    rw [← List.zipIdx_map_fst 0 doc.feature.children, List.forall₂_map_left_iff]
    refine ((List.forall₂_and_left _ _).mpr ⟨hmem, hshows⟩).imp fun ck t ht ↦ ?_
    have hsteps : ∀ s ∈ ck.1.steps, s ∈ doc.feature.steps := fun s hs ↦
      List.mem_append_right _ (List.mem_flatMap.mpr ⟨ck.1, ht.1, hs⟩)
    exact ht.2.toChild hhide hderives (fun s hs ↦ hf.tables s (hsteps s hs)) (hf.examples _ ht.1)
  obtain ⟨htold, hback⟩ := Drafter.toBackground_of_mapM (Drafter.background_of_feature hd)
    (some (p.slugOf doc.feature.name)) fun t ht ↦ hf.tables t (List.mem_append_left _ ht)
  have hpage := page_eq_some hp
  have hbackground : page.background = draft.background.map fun s ↦
      { s with owner := some (p.slugOf doc.feature.name) } := by rw [hpage]; rfl
  have hid : page.id = p.slugOf doc.feature.name := by rw [hpage]; rfl
  constructor
  case tree =>
    have hsections : page.sections.map Section.toChild =
        doc.feature.children.map Gherkin.Child.told := by
      rw [← List.forall₂_eq_eq_eq, List.forall₂_map_left_iff, List.forall₂_map_right_iff]
      exact hchild.flip.imp fun t c h ↦ h.1
    rw [Page.toFeature, hsections, hbackground, htold, hpage, Publisher.page, hhide,
      TagFilter.visible_empty]
    rfl
  case steps =>
    rw [Page.steps, List.flatMap_append, hbackground]
    exact List.rel_append hback (flatMap_steps_retells (hchild.imp fun c t ht ↦ ht.2.1))
  case verdicts => exact forall_right hchild fun c t ht ↦ ht.2.2
  case id => exact hid
  case slugs =>
    refine forall_right hshows fun ck t ht ↦ ?_
    obtain ⟨s, hs, hslug, rfl⟩ := ht
    rw [hslug, (Drafter.drafts_of_child hs).title]
  case owners =>
    intro s hs
    rw [Page.owns, hid, decide_eq_true_eq]
    rcases List.mem_append.mp hs with hs | hs
    · rw [hbackground, Option.mem_toList, Option.map_eq_some_iff] at hs
      obtain ⟨b, -, rfl⟩ := hs
      rfl
    · have howner : ∀ s ∈ page.sections, s.owner = some (p.slugOf doc.feature.name) := by
        refine forall_right hshows fun ck t ht ↦ ?_
        obtain ⟨s, -, -, rfl⟩ := ht
        rfl
      exact howner s hs

theorem publish_mirrors_doors :
    let background : Gherkin.Background :=
      ⟨"", none, [⟨"Given ", "a notice", some (.docString "Mind the door\n"), ⟨3, 5⟩⟩], ⟨2, 3⟩⟩
    let outline : Gherkin.Scenario :=
      ⟨"Open", some "With a key", ["@slow"],
        [⟨"When ", "it is opened", some (.table [["by"], ["me"], ["you"]]), ⟨9, 5⟩⟩], ⟨7, 3⟩⟩
    let examples : Gherkin.Examples := ⟨some "Keys", none, [], [["key"], ["1"], ["2"]], ⟨13, 5⟩⟩
    let scenario : Gherkin.Scenario := ⟨"Shut", none, [], [], ⟨18, 3⟩⟩
    let doc : Gherkin.Document :=
      ⟨⟨"Doors", none, ["@smoke"], none, some background,
        [.outline outline [examples], .scenario scenario], ⟨1, 1⟩⟩, [⟨"# (B-7)", ⟨6, 3⟩⟩]⟩
    let p : Publisher := ⟨⟨.empty, .empty, ⟨false, true⟩, .info⟩, none, slug⟩
    doc.feature.Sound (doc.feature.wordsOr p.words) ∧
      ∃ e page, p.publish doc = .ok e ∧ e.page = some page ∧
        page.toFeature = { doc.feature with
          description := some ""
          language := some "en"
          background := some { background with description := some "" }
          children := [.outline outline [{ examples with position := .nowhere }],
            .scenario { scenario with description := some "" }]
          position := .nowhere } ∧
        page.Mirrors p.slugOf doc.feature := by
  intro background outline examples scenario doc p
  have hsteps : doc.feature.steps = background.steps ++ outline.steps := rfl
  have hsound : doc.feature.Sound (doc.feature.wordsOr p.words) := by
    constructor
    case rules => simp [doc]
    case keywords =>
      rw [hsteps]
      simp only [background, outline, List.cons_append, List.nil_append, List.forall_mem_cons]
      exact ⟨⟨.context, by decide +kernel⟩, ⟨.action, by decide +kernel⟩, by simp⟩
    case tables => simp [hsteps, background, outline]
    case examples => simp [doc, Gherkin.Child.examples, examples]
  obtain ⟨e, page, he, hp, hm⟩ := publish_mirrors (p := p) rfl rfl rfl hsound
  exact ⟨hsound, e, page, he, hp, hm.tree, hm⟩

end Publisher

end LivingDoc
