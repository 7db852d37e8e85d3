import LivingDoc.Proofs.Publication

namespace LivingDoc

namespace Publisher

variable {p : Publisher} {doc : Gherkin.Document} {draft : Draft} {e : Edition} {page : Page}

/-- No hidden tag is shown on a page: a section shows the other tags of its child in their order,
followed by what remarks add to them. -/
theorem tags_visible (he : p.publish doc = .ok e) (hp : e.page = some page) :
    (∀ t ∈ page.tags, p.settings.hide.matchesTag t = false) ∧
      (∀ s ∈ page.sections, ∀ t ∈ s.tags, p.settings.hide.matchesTag t = false) ∧
      (∀ b ∈ page.background, b.tags = []) ∧
      ∃ kept : List Gherkin.Child, kept.Sublist doc.feature.children ∧
        List.Forall₂ (fun child s ↦ s.title = child.name ∧ s.position = child.position ∧
          ∃ more, s.tags = p.settings.hide.visible child.tags ++ more ∧
            (p.settings.remarks.derives = false → more = []) ∧
            Tagging.Supplement (p.settings.hide.visible child.tags) more)
          kept page.sections := by
  obtain ⟨draft, h, rfl⟩ := publish_eq_ok.mp he
  have hown : List.Forall₂ (fun ck s ↦ s.title = ck.1.name ∧ s.position = ck.1.position ∧
      s.tags = p.settings.hide.visible ck.1.tags ++ p.derived doc draft ck.1 ck.2)
      (p.included doc draft) page.sections :=
    (forall₂_shows h hp).imp fun ck s hs ↦ hs.own
  refine ⟨fun t ht ↦ ?_, ?_, fun b hb ↦ ?_, (p.included doc draft).map Prod.fst, included_sublist,
    List.forall₂_map_left_iff.mpr (hown.imp fun ck s hs ↦ ?_)⟩
  · rw [page_eq_some hp] at ht
    exact (TagFilter.mem_visible.mp ht).2
  · refine forall_right hown fun ck s hs t ht ↦ ?_
    rw [hs.2.2, List.mem_append] at ht
    rcases ht with ht | ht
    · exact (TagFilter.mem_visible.mp ht).2
    · exact matchesTag_derived ht
  · rw [page_eq_some hp] at hb
    obtain ⟨s, hs, rfl⟩ := Option.map_eq_some_iff.mp hb
    exact Drafter.tags_background h s hs
  · obtain ⟨ht, hpos, htags⟩ := hs
    exact ⟨ht, hpos, _, htags, derived_of_not, supplement_derived⟩

theorem tags_visible_secret :
    let scenario : Gherkin.Scenario := ⟨"Open", none, ["@secret", "@smoke"], [], ⟨3, 3⟩⟩
    let doc : Gherkin.Document :=
      ⟨⟨"Doors", none, ["@secret"], none, none, [.scenario scenario], ⟨1, 1⟩⟩,
        [⟨"# RI:10-3 (B-7)", ⟨2, 3⟩⟩]⟩
    let p : Publisher :=
      ⟨⟨⟨["secret", "T_10_3"]⟩, .empty, ⟨true, false⟩, .info⟩, some ⟨[], [], [], [], []⟩, id⟩
    ∃ e page, p.publish doc = .ok e ∧ e.page = some page ∧ page.tags = [] ∧
      page.sections.map Section.tags = [["@smoke", "@B_7"]] ∧
      ∀ s ∈ page.sections, ∀ t ∈ s.tags, p.settings.hide.matchesTag t = false := by
  intro scenario doc p
  let draft : Draft := ⟨none, [⟨"Open", "", ⟨3, 3⟩, ["@smoke"], [], none, .scenario "Open"⟩]⟩
  have he : p.publish doc = .ok (p.finish doc draft) := rfl
  have hsome : ((p.finish doc draft).page.map fun page ↦
      (page.tags, page.sections.map Section.tags)) = some ([], [["@smoke", "@B_7"]]) := by
    decide +kernel
  obtain ⟨page, hp, ht⟩ := Option.map_eq_some_iff.mp hsome
  obtain ⟨ht, hs⟩ := Prod.mk.inj ht
  exact ⟨_, page, he, hp, ht, hs, (tags_visible he hp).2.1⟩

end Publisher

end LivingDoc
