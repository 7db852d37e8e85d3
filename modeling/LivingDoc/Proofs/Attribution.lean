import LivingDoc.Proofs.Publication
import LivingDoc.Proofs.Sorting

namespace LivingDoc

namespace Gherkin.Document

variable (doc : Document)

def inOrder : List Comment := doc.comments.mergeSort fun c d ↦ c.position.le d.position

theorem mem_inOrder {c : Comment} : c ∈ doc.inOrder ↔ c ∈ doc.comments := List.mem_mergeSort

theorem pairwise_inOrder : doc.inOrder.Pairwise fun c d ↦ c.position.le d.position :=
  List.pairwise_mergeSort (fun b c d ↦ Position.le_trans b.position c.position d.position)
    (fun c d ↦ Position.le_total c.position d.position) _

theorem filter_inOrder (keep : Comment → Bool) :
    { doc with comments := doc.comments.filter keep }.inOrder = doc.inOrder.filter keep :=
  (filter_mergeSort (fun b c d ↦ Position.le_trans b.position c.position d.position)
    (fun c d ↦ Position.le_total c.position d.position) keep doc.comments).symm

def spans : List Span := doc.feature.children.map Child.span

/-- The comments that give tags to a child, told from their lines. -/
def attributed (ck : Child × Nat) : List Comment :=
  (doc.inOrder.filter fun c ↦ Span.leads doc.spans ck.2 c.position.line) ++
    doc.inOrder.filter fun c ↦ ck.1.span.holds c.position.line

def tagsOf (hide : TagFilter) (ck : Child × Nat) : List String :=
  ((doc.attributed ck).foldl (fun t c ↦ t.cite hide (.ofText (Text.trimmed c.text)))
    (Tagging.start (hide.visible ck.1.tags))).tags

variable {doc} {ck : Child × Nat}

theorem tagsOf_filter {keep : Comment → Bool} (h : ∀ c ∈ doc.attributed ck, keep c)
    (hide : TagFilter) :
    { doc with comments := doc.comments.filter keep }.tagsOf hide ck = doc.tagsOf hide ck := by
  have ha : { doc with comments := doc.comments.filter keep }.attributed ck =
      doc.attributed ck := by
    rw [attributed, filter_inOrder, List.filter_comm, List.filter_comm _ keep,
      ← List.filter_append]
    exact List.filter_eq_self.mpr h
  rw [tagsOf, tagsOf, ha]

end Gherkin.Document

namespace RemarkPolicy

variable {r : RemarkPolicy}

theorem collects_of_derives (h : r.derives) : r.collects := by
  rw [collects, h, Bool.true_or]

theorem collects_of_retains (h : r.retains) : r.collects := by
  rw [collects, h, Bool.or_true]

end RemarkPolicy

namespace Publisher

variable {p : Publisher} {doc : Gherkin.Document} {draft : Draft} {ck : Gherkin.Child × Nat}
  {e : Edition} {page : Page}

/-- A comment before it is looked at. -/
def remarkOf (c : Gherkin.Comment) : Remark := ⟨Text.trimmed c.text, c.position, .unattached⟩

theorem remarksOf_eq (doc : Gherkin.Document) :
    remarksOf doc.comments = doc.inOrder.map remarkOf := by
  exact (List.map_mergeSort (f := remarkOf) fun c _ d _ ↦ rfl).symm

section Collected

variable (hc : p.settings.remarks.collects)
include hc

theorem remarks_commentary : (p.commentary doc draft).remarks = doc.inOrder.map remarkOf := by
  rw [commentary, hc, if_pos rfl, remarksOf_eq]

theorem fresh_commentary (h : (p.drafter doc.feature).feature doc.feature = .ok draft) :
    (p.commentary doc draft).Fresh where
  bare := forall_right (Drafter.forall₂_sections h) fun c s hs ↦ (Drafter.drafts_of_child hs).bare
  unattached r hr := by
    rw [remarks_commentary hc, List.mem_map] at hr
    obtain ⟨c, -, rfl⟩ := hr
    rfl
  sorted := by
    rw [remarks_commentary hc, List.pairwise_map]
    exact doc.pairwise_inOrder.imp Position.line_le

end Collected

section Drafted

variable (hd : p.settings.remarks.derives)
  (h : (p.drafter doc.feature).feature doc.feature = .ok draft)
include hd h

omit hd in
theorem span_commentary : (p.commentary doc draft).sections.map Section.span = doc.spans := by
  rw [eq_comm, Gherkin.Document.spans, ← List.forall₂_eq_eq_eq, List.forall₂_map_left_iff,
    List.forall₂_map_right_iff]
  exact (Drafter.forall₂_sections h).imp fun c s hs ↦ (Drafter.drafts_of_child hs).span_eq.symm

theorem texts_candidates (hl : Span.Ascending doc.spans)
    (hfree : ∀ c ∈ doc.comments, Span.Free doc.spans c.position.line)
    (hck : ck ∈ doc.feature.children.zipIdx) :
    (p.candidates doc draft ck.2).map Remark.text =
      (doc.attributed ck).map fun c ↦ Text.trimmed c.text := by
  obtain ⟨s, hs, hsc⟩ := Drafter.section_of_child h (List.mem_zipIdx_iff_getElem?.mp hck)
  have hspan : s.span = ck.1.span := (Drafter.drafts_of_child hsc).span_eq
  have hspans : (p.commentary doc draft).sections.map Section.span = doc.spans := span_commentary h
  have hc := RemarkPolicy.collects_of_derives hd
  have hfree' : ∀ r ∈ (p.commentary doc draft).remarks, Span.Free doc.spans r.position.line := by
    rw [remarks_commentary hc]
    intro r hr
    obtain ⟨c, hm, rfl⟩ := List.mem_map.mp hr
    exact hfree c (doc.mem_inOrder.mp hm)
  have hsrc := Commentary.sources_attached (fresh_commentary hc h) (hspans ▸ hl)
    (hspans ▸ hfree') hs
  rw [candidates, hsrc, Option.getD_some, hspans, hspan, remarks_commentary hc, List.filter_map,
    List.filter_map, ← List.map_append, List.map_map, List.map_map]
  rfl

theorem tags_derived (hl : Span.Ascending doc.spans)
    (hfree : ∀ c ∈ doc.comments, Span.Free doc.spans c.position.line)
    (hck : ck ∈ doc.feature.children.zipIdx) :
    p.settings.hide.visible ck.1.tags ++ p.derived doc draft ck.1 ck.2 =
      doc.tagsOf p.settings.hide ck := by
  have hread : doc.tagsOf p.settings.hide ck =
      ((Tagging.start (p.settings.hide.visible ck.1.tags)).read p.settings.hide
        (p.candidates doc draft ck.2)).tags := by
    have ht := congrArg (List.foldl (fun t text ↦ t.cite p.settings.hide (.ofText text))
      (Tagging.start (p.settings.hide.visible ck.1.tags))) (texts_candidates hd h hl hfree hck)
    rw [List.foldl_map, List.foldl_map] at ht
    exact congrArg Tagging.tags ht.symm
  rw [hread, (Tagging.took_read _ _ _).tags_eq, derived, if_pos hd]

theorem forall₂_tagsOf (hl : Span.Ascending doc.spans)
    (hfree : ∀ c ∈ doc.comments, Span.Free doc.spans c.position.line)
    (hp : (p.finish doc draft).page = some page) :
    List.Forall₂ (fun ck s ↦ s.title = ck.1.name ∧ s.position = ck.1.position ∧
      s.tags = doc.tagsOf p.settings.hide ck) (p.included doc draft) page.sections := by
  have hmem : ∀ ck ∈ p.included doc draft, ck ∈ doc.feature.children.zipIdx :=
    fun ck hck ↦ (List.mem_filter.mp hck).1
  refine ((List.forall₂_and_left _ _).mpr ⟨hmem, forall₂_shows h hp⟩).imp fun ck s hs ↦ ?_
  obtain ⟨hck, hs⟩ := hs
  obtain ⟨ht, hpos, htags⟩ := hs.own
  exact ⟨ht, hpos, htags.trans (tags_derived hd h hl hfree hck)⟩

end Drafted

/-- The tags of a section on a page are those of its child that are shown, with what the comments
around that child add, one after the other. They stay the same if other comments are left out and
if other children are excluded. -/
theorem tags_attributed (hd : p.settings.remarks.derives) (hl : Span.Ascending doc.spans)
    (hfree : ∀ c ∈ doc.comments, Span.Free doc.spans c.position.line)
    (he : p.publish doc = .ok e) (hp : e.page = some page) :
    (∃ kept : List (Gherkin.Child × Nat), kept.Sublist doc.feature.children.zipIdx ∧
      List.Forall₂ (fun ck s ↦ s.title = ck.1.name ∧ s.position = ck.1.position ∧
        s.tags = doc.tagsOf p.settings.hide ck) kept page.sections) ∧
    ∀ (q : Publisher) (keep : Gherkin.Comment → Bool) (e' : Edition) (page' : Page),
      q.settings.remarks.derives → q.settings.hide = p.settings.hide →
      q.publish { doc with comments := doc.comments.filter keep } = .ok e' →
      e'.page = some page' →
      ∃ kept : List (Gherkin.Child × Nat), kept.Sublist doc.feature.children.zipIdx ∧
        List.Forall₂ (fun ck s ↦ s.title = ck.1.name ∧ s.position = ck.1.position ∧
          ((∀ c ∈ doc.attributed ck, keep c) → s.tags = doc.tagsOf p.settings.hide ck))
          kept page'.sections := by
  refine ⟨?_, fun q keep e' page' hq hhide he' hp' ↦ ?_⟩
  · obtain ⟨draft, h, rfl⟩ := publish_eq_ok.mp he
    exact ⟨_, List.filter_sublist, forall₂_tagsOf hd h hl hfree hp⟩
  · obtain ⟨draft, h, rfl⟩ := publish_eq_ok.mp he'
    have hfree' : ∀ c ∈ doc.comments.filter keep, Span.Free doc.spans c.position.line :=
      fun c hc ↦ hfree c (List.mem_filter.mp hc).1
    refine ⟨_, List.filter_sublist, (forall₂_tagsOf hq h hl hfree' hp').imp fun ck s hs ↦ ?_⟩
    obtain ⟨ht, hpos, htags⟩ := hs
    refine ⟨ht, hpos, fun hkeep ↦ ?_⟩
    rw [htags, hhide, Gherkin.Document.tagsOf_filter hkeep]

theorem tags_attributed_second :
    let first : Gherkin.Scenario :=
      ⟨"Open", none, [],
        [⟨"Given ", "a door", none, ⟨5, 5⟩⟩, ⟨"Given ", "a key", none, ⟨7, 5⟩⟩], ⟨3, 3⟩⟩
    let second : Gherkin.Scenario :=
      ⟨"Shut", none, ["@smoke"], [⟨"Given ", "a door", none, ⟨11, 5⟩⟩], ⟨10, 3⟩⟩
    let doc : Gherkin.Document :=
      ⟨⟨"Doors", none, [], none, none, [.scenario first, .scenario second], ⟨1, 1⟩⟩,
        [⟨"# RI:10-3", ⟨2, 3⟩⟩, ⟨"# (B-2)", ⟨6, 3⟩⟩, ⟨"# (B-3)", ⟨8, 3⟩⟩, ⟨"# (B-4)", ⟨12, 3⟩⟩]⟩
    let p : Publisher :=
      ⟨⟨.empty, ⟨["T_10_3"]⟩, ⟨true, false⟩, .info⟩, some ⟨["Given"], [], [], [], []⟩, id⟩
    ∃ e page, p.publish doc = .ok e ∧ e.page = some page ∧
      page.sections.map Section.tags = [["@smoke", "@B_3"]] ∧
      ∃ kept : List (Gherkin.Child × Nat), kept.Sublist doc.feature.children.zipIdx ∧
        List.Forall₂ (fun ck s ↦ s.title = ck.1.name ∧ s.position = ck.1.position ∧
          s.tags = doc.tagsOf p.settings.hide ck) kept page.sections := by
  intro first second doc p
  let draft : Draft :=
    ⟨none, [⟨"Open", "", ⟨3, 3⟩, [], [⟨⟨5, 5⟩, .context, "Given ", "a door", none, []⟩,
        ⟨⟨7, 5⟩, .context, "Given ", "a key", none, []⟩], none, .scenario "Open"⟩,
      ⟨"Shut", "", ⟨10, 3⟩, ["@smoke"], [⟨⟨11, 5⟩, .context, "Given ", "a door", none, []⟩], none,
        .scenario "Shut"⟩]⟩
  have he : p.publish doc = .ok (p.finish doc draft) := rfl
  have hr : remarksOf doc.comments = doc.comments.map remarkOf :=
    List.mergeSort_of_pairwise (by decide)
  have hc : p.commentary doc draft = ⟨draft.sections, doc.comments.map remarkOf⟩ :=
    congrArg (Commentary.mk draft.sections) hr
  have hsome : ((p.finish doc draft).page.map fun page ↦ page.sections.map Section.tags) =
      some [["@smoke", "@B_3"]] := by
    rw [finish, hc]
    decide +kernel
  have hl : Span.Ascending doc.spans := ⟨by decide, by decide, by decide, by decide⟩
  obtain ⟨page, hp, ht⟩ := Option.map_eq_some_iff.mp hsome
  exact ⟨_, page, he, hp, ht, (tags_attributed rfl hl (by decide) he hp).1⟩

end Publisher

end LivingDoc
