import LivingDoc.Proofs.Mirror

namespace LivingDoc

def Section.silent (s : Section) : Section :=
  { s with steps := s.steps.map ({ · with remarks := [] }) }

theorem Section.silent_of_bare {s : Section} (h : ∀ t ∈ s.steps, t.remarks = []) :
    s.silent = s := by
  have hs : s.steps.map ({ · with remarks := [] }) = s.steps.map id :=
    List.map_congr_left fun t ht ↦ by rw [← h t ht, id]
  rw [silent, hs, List.map_id]

namespace Page

variable (page : Page)

def silent : Page :=
  { page with
    background := page.background.map Section.silent
    sections := page.sections.map Section.silent
    remarks := [] }

theorem eq_silent_of_frame {page page' frame frame' : Page} (hf : frame' = frame.silent)
    (hp : page = { frame with sections := page.sections })
    (hp' : page' = { frame' with sections := page'.sections })
    (hs : page'.sections = page.sections.map Section.silent) : page' = page.silent := by
  rw [hp', hs, hf, hp]
  rfl

theorem bare_silent : ∀ t ∈ page.silent.steps, t.remarks = [] := by
  intro t ht
  obtain ⟨s, hs, ht⟩ := List.mem_flatMap.mp ht
  obtain ⟨s, -, rfl⟩ : ∃ s' ∈ page.background.toList ++ page.sections, s'.silent = s := by
    rw [← List.mem_map, List.map_append, ← Option.toList_map]
    exact hs
  obtain ⟨u, -, rfl⟩ := List.mem_map.mp ht
  rfl

end Page

namespace Publisher

variable {p : Publisher} {doc : Gherkin.Document} {draft : Draft} {child : Gherkin.Child} {k : Nat}

def reading (p : Publisher) (policy : RemarkPolicy) : Publisher :=
  { p with settings := { p.settings with remarks := policy } }

/-- Which remarks are looked at depends on whether they are looked at at all. -/
theorem commentary_reading (p : Publisher) (policy policy' : RemarkPolicy)
    (h : policy.collects = policy'.collects) :
    (p.reading policy).commentary doc draft = (p.reading policy').commentary doc draft := by
  have hc : (p.reading policy).settings.remarks.collects =
      (p.reading policy').settings.remarks.collects := h
  rw [commentary, commentary, hc]

theorem candidates_reading (p : Publisher) (policy policy' : RemarkPolicy)
    (h : policy.collects = policy'.collects) :
    (p.reading policy).candidates doc draft k = (p.reading policy').candidates doc draft k := by
  rw [candidates, candidates, p.commentary_reading policy policy' h]

theorem classification_of_ignored (hd : p.settings.remarks.derives = false) :
    p.classification doc draft child k = child.tags := by
  rw [classification, hd, if_neg Bool.false_ne_true, List.append_nil]

theorem classification_reading (p : Publisher) (derives : Bool) :
    (p.reading ⟨derives, false⟩).classification doc draft child k =
      (p.reading ⟨derives, true⟩).classification doc draft child k := by
  cases derives with
  | false => rw [classification_of_ignored rfl, classification_of_ignored rfl]
  | true =>
    rw [classification, classification, p.candidates_reading ⟨true, false⟩ ⟨true, true⟩ rfl]
    rfl

theorem derived_reading (p : Publisher) (derives : Bool) :
    (p.reading ⟨derives, false⟩).derived doc draft child k =
      (p.reading ⟨derives, true⟩).derived doc draft child k := by
  cases derives with
  | false => rw [derived_of_not rfl, derived_of_not rfl]
  | true =>
    rw [derived, derived, p.candidates_reading ⟨true, false⟩ ⟨true, true⟩ rfl]
    rfl

theorem included_reading (p : Publisher) (derives : Bool) :
    (p.reading ⟨derives, false⟩).included doc draft =
      (p.reading ⟨derives, true⟩).included doc draft := by
  simp only [included, classification_reading]
  rfl

theorem Shows.silent {derives : Bool} {t : Section}
    (ht : (p.reading ⟨derives, true⟩).Shows doc draft child k t) :
    (p.reading ⟨derives, false⟩).Shows doc draft child k t.silent := by
  obtain ⟨s, hs, hslug, rfl⟩ := ht
  refine ⟨s, hs, hslug, ?_⟩
  rw [Section.silent, map_mapIdx, derived_reading]
  rfl

theorem page_nil_reading (p : Publisher) (derives : Bool) (f : Gherkin.Feature)
    {background : Option Section} (hb : ∀ s ∈ background, ∀ t ∈ s.steps, t.remarks = [])
    (remarks remarks' : List Remark) : (p.reading ⟨derives, false⟩).page f background remarks [] =
      ((p.reading ⟨derives, true⟩).page f background remarks' []).silent := by
  have hs : (background.map ({ · with owner := some (p.slugOf f.name) })).map Section.silent =
      background.map ({ · with owner := some (p.slugOf f.name) }) := by
    rw [Option.map_map]
    exact Option.map_congr fun s hm ↦ Section.silent_of_bare (hb s hm)
  rw [page, page, Page.silent]
  exact congrArg (Page.mk _ _ _ _ · _ _ _) hs.symm

theorem page_reading (p : Publisher)
    (h : (p.drafter doc.feature).feature doc.feature = .ok draft) (derives : Bool) :
    ((p.reading ⟨derives, false⟩).finish doc draft).page =
      ((p.reading ⟨derives, true⟩).finish doc draft).page.map Page.silent := by
  have hr (policy : RemarkPolicy) :
      ((p.reading policy).drafter doc.feature).feature doc.feature = .ok draft := h
  have hnone : ((p.reading ⟨derives, false⟩).finish doc draft).page = none ↔
      ((p.reading ⟨derives, true⟩).finish doc draft).page = none := by
    rw [page_eq_none_iff (hr _), page_eq_none_iff (hr _)]
    simp only [classification_reading]
    rfl
  cases hp : ((p.reading ⟨derives, true⟩).finish doc draft).page with
  | none => exact hnone.mpr hp
  | some page =>
    cases hq : ((p.reading ⟨derives, false⟩).finish doc draft).page with
    | none => exact absurd (hnone.mp hq) (by rw [hp]; exact Option.some_ne_none page)
    | some page' =>
      have hshow := forall₂_shows (hr _) hp
      have hshow' := forall₂_shows (hr _) hq
      rw [included_reading] at hshow'
      have hsections : page'.sections = page.sections.map Section.silent := by
        rw [← List.forall₂_eq_eq_eq, List.forall₂_map_right_iff]
        exact forall₂_of_common hshow' hshow fun ck t u ht hu ↦ ht.unique hu.silent
      have hframe := p.page_nil_reading derives doc.feature (Drafter.bare_background h)
        ((p.reading ⟨derives, false⟩).commentary doc draft).attached.remarks
        ((p.reading ⟨derives, true⟩).commentary doc draft).attached.remarks
      rw [Option.map_some,
        Page.eq_silent_of_frame hframe (page_eq_frame hp) (page_eq_frame hq) hsections]

/-- Whether remarks are retained decides on nothing else: the page without them is the page with
them, silenced, and has no remark on any step. Where no tags are taken from remarks, a page has the
tags of its feature, and sections have those of their children, and no others. -/
theorem publish_reading (p : Publisher) (doc : Gherkin.Document) :
    (∀ derives, ((p.reading ⟨derives, false⟩).publish doc).map Edition.page =
      ((p.reading ⟨derives, true⟩).publish doc).map fun e ↦ e.page.map Page.silent) ∧
    (∀ derives e page, (p.reading ⟨derives, false⟩).publish doc = .ok e → e.page = some page →
      page.remarks = [] ∧ ∀ t ∈ page.steps, t.remarks = []) ∧
    ∀ retains e page, (p.reading ⟨false, retains⟩).publish doc = .ok e → e.page = some page →
      page.tags = p.settings.hide.visible doc.feature.tags ∧ (∀ b ∈ page.background, b.tags = []) ∧
        ∃ kept : List Gherkin.Child, kept.Sublist doc.feature.children ∧
          List.Forall₂ (fun child s ↦ s.title = child.name ∧ s.position = child.position ∧
            s.tags = p.settings.hide.visible child.tags) kept page.sections := by
  refine ⟨fun derives ↦ ?_, fun derives e page he hp ↦ ?_, fun retains e page he hp ↦ ?_⟩
  · have hd (policy : RemarkPolicy) :
        (p.reading policy).drafter doc.feature = p.drafter doc.feature := rfl
    rw [publish, publish, hd, hd]
    cases h : (p.drafter doc.feature).feature doc.feature with
    | error e => simp only [Except.map]
    | ok draft => simp only [Except.map, p.page_reading h]
  · obtain ⟨draft, h, rfl⟩ := publish_eq_ok.mp he
    rw [p.page_reading h derives] at hp
    obtain ⟨page', -, rfl⟩ := Option.map_eq_some_iff.mp hp
    exact ⟨rfl, page'.bare_silent⟩
  · obtain ⟨draft, h, rfl⟩ := publish_eq_ok.mp he
    refine ⟨?_, fun b hb ↦ ?_, _, included_sublist,
      List.forall₂_map_left_iff.mpr ((forall₂_shows h hp).imp fun ck s hs ↦ ?_)⟩
    · rw [page_eq_frame hp]
      rfl
    · rw [page_eq_frame hp] at hb
      obtain ⟨s, hs, rfl⟩ := Option.map_eq_some_iff.mp hb
      exact Drafter.tags_background h s hs
    · obtain ⟨ht, hpos, htags⟩ := hs.own
      rw [derived_of_not rfl, List.append_nil] at htags
      exact ⟨ht, hpos, htags⟩

theorem publish_reading_story :
    let scenario : Gherkin.Scenario :=
      ⟨"Open", none, [], [⟨"Given ", "a door", none, ⟨5, 5⟩⟩], ⟨3, 3⟩⟩
    let doc : Gherkin.Document :=
      ⟨⟨"Doors", none, [], none, none, [.scenario scenario], ⟨1, 1⟩⟩, [⟨"# (B-7)", ⟨4, 5⟩⟩]⟩
    let p : Publisher :=
      ⟨⟨.empty, .empty, .ignore, .info⟩, some ⟨["Given"], [], [], [], []⟩, id⟩
    ∃ e page e' page', (p.reading ⟨true, true⟩).publish doc = .ok e ∧ e.page = some page ∧
      page.sections.map Section.tags = [["@B_7"]] ∧
      page.steps.map Step.remarks = [[⟨"# (B-7)", ⟨4, 5⟩, .beforeStep⟩]] ∧
      (p.reading ⟨true, false⟩).publish doc = .ok e' ∧ e'.page = some page' ∧
      page' = page.silent ∧ ∀ t ∈ page'.steps, t.remarks = [] := by
  intro scenario doc p
  let draft : Draft :=
    ⟨none, [⟨"Open", "", ⟨3, 3⟩, [], [⟨⟨5, 5⟩, .context, "Given ", "a door", none, []⟩], none,
      .scenario "Open"⟩]⟩
  have he : (p.reading ⟨true, true⟩).publish doc =
      .ok ((p.reading ⟨true, true⟩).finish doc draft) := rfl
  have he' : (p.reading ⟨true, false⟩).publish doc =
      .ok ((p.reading ⟨true, false⟩).finish doc draft) := rfl
  let remark : Remark := ⟨Text.trimmed "# (B-7)", ⟨4, 5⟩, .unattached⟩
  have hr : remarksOf doc.comments = [remark] := List.mergeSort_singleton remark
  have hc : (p.reading ⟨true, true⟩).commentary doc draft = ⟨draft.sections, [remark]⟩ :=
    congrArg (Commentary.mk draft.sections) hr
  have hsome : (((p.reading ⟨true, true⟩).finish doc draft).page.map fun page ↦
      (page.sections.map Section.tags, page.steps.map Step.remarks)) =
        some ([["@B_7"]], [[⟨"# (B-7)", ⟨4, 5⟩, .beforeStep⟩]]) := by
    rw [finish, hc]
    decide +kernel
  obtain ⟨page, hp, ht⟩ := Option.map_eq_some_iff.mp hsome
  obtain ⟨htags, hsteps⟩ := Prod.mk.inj ht
  have hs := (publish_reading p doc).1 true
  rw [he, he', Except.map, Except.map, hp, Except.ok.injEq, Option.map_some] at hs
  exact ⟨_, page, _, page.silent, he, hp, htags, hsteps, he', hs, rfl,
    ((publish_reading p doc).2.1 true _ _ he' hs).2⟩

end Publisher

end LivingDoc
