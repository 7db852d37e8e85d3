import LivingDoc.Proofs.Commentary
import LivingDoc.Proofs.Draft
import LivingDoc.Proofs.Tagging
import LivingDoc.Publisher

namespace LivingDoc

structure Bearer where
  child : Gherkin.Child
  /-- The section of the child, with the remarks on its steps. -/
  draft : Section
  /-- The remarks that the section takes tags from. -/
  sources : List Remark

namespace Publisher

variable (p : Publisher) (doc : Gherkin.Document) (draft : Draft)

def candidates (k : Nat) : List Remark :=
  ((p.commentary doc draft).attached.sources[k]?).getD []

def bearers : List Bearer :=
  let c := (p.commentary doc draft).attached
  List.zipWith (fun child (s, l) ↦ ⟨child, s, l⟩) doc.feature.children (c.sections.zip c.sources)

def taggingOf (b : Bearer) : Tagging :=
  if p.settings.remarks.derives then (Tagging.start b.draft.tags).read p.settings.hide b.sources
  else .start b.draft.tags

def entryOf (b : Bearer) : Entry := ⟨b.child.tags, b.draft, p.taggingOf b⟩

structure Bears (child : Gherkin.Child) (k : Nat) (b : Bearer) : Prop where
  child_eq : b.child = child
  draft_eq : ∃ s, (p.drafter doc.feature).child child = .ok s ∧ draft.sections[k]? = some s ∧
    b.draft = (p.commentary doc draft).attachedSection k s
  sources_eq : b.sources = p.candidates doc draft k

/-- The tags of a child that decide on it: those written above it, and those that remarks offer. -/
def classification (child : Gherkin.Child) (k : Nat) : List String :=
  child.tags ++ if p.settings.remarks.derives then
    Tagging.offers (p.settings.hide.visible child.tags) (p.candidates doc draft k) else []

/-- The tags that remarks add to those of a child. -/
def derived (child : Gherkin.Child) (k : Nat) : List String :=
  if p.settings.remarks.derives then
    Tagging.added p.settings.hide (p.settings.hide.visible child.tags)
      (Tagging.offers (p.settings.hide.visible child.tags) (p.candidates doc draft k)) else []

def included : List (Gherkin.Child × Nat) :=
  doc.feature.children.zipIdx.filter fun ck ↦
    !p.settings.exclude.matchesAny (p.classification doc draft ck.1 ck.2)

/-- What the page shows of a child: its own section, with its own tags and the remarks on its own
steps. -/
def Shows (child : Gherkin.Child) (k : Nat) (t : Section) : Prop :=
  ∃ s, (p.drafter doc.feature).child child = .ok s ∧ t.slug = some (p.slugOf child.name) ∧
    t = { s with
      tags := p.settings.hide.visible child.tags ++ p.derived doc draft child k
      steps := s.steps.mapIdx fun j u ↦ { u with
        remarks := if p.settings.remarks.retains then
          Placed.on (p.commentary doc draft).placed k j else [] }
      owner := some (p.slugOf doc.feature.name) }

variable {p doc draft} {b : Bearer} {child : Gherkin.Child} {k : Nat}

theorem getElem?_bearers : (p.bearers doc draft)[k]? = some b ↔
    doc.feature.children[k]? = some b.child ∧
      (p.commentary doc draft).attached.sections[k]? = some b.draft ∧
      (p.commentary doc draft).attached.sources[k]? = some b.sources := by
  rw [bearers, List.getElem?_zipWith_eq_some]
  constructor
  · intro h
    obtain ⟨child, ⟨s, l⟩, hc, hsl, rfl⟩ := h
    exact ⟨hc, (List.getElem?_zip_eq_some.mp hsl).1, (List.getElem?_zip_eq_some.mp hsl).2⟩
  · intro h
    obtain ⟨hc, hs, hl⟩ := h
    exact ⟨b.child, (b.draft, b.sources), hc, List.getElem?_zip_eq_some.mpr ⟨hs, hl⟩, rfl⟩

theorem entries_eq (p : Publisher) (doc : Gherkin.Document) (draft : Draft) :
    p.entries doc.feature (p.commentary doc draft).attached =
      (p.bearers doc draft).map p.entryOf := by
  apply List.ext_getElem?
  intro k
  have hl := (p.commentary doc draft).attached.getElem?_sources k
  simp only [entries, bearers, taggings, Commentary.taggings, List.zip, List.getElem?_map,
    List.getElem?_zipWith]
  cases doc.feature.children[k]? with
  | none => rfl
  | some child =>
    cases hs : (p.commentary doc draft).attached.sections[k]? with
    | none => rfl
    | some s =>
      rw [hs, Option.map_some] at hl
      by_cases hd : p.settings.remarks.derives
      · simp [hd, hs, hl, entryOf, taggingOf, List.getElem?_zipWith]
      · simp [hd, hs, hl, entryOf, taggingOf]

theorem derived_of_not (hd : p.settings.remarks.derives = false) :
    p.derived doc draft child k = [] := by
  rw [derived, hd, if_neg Bool.false_ne_true]

theorem matchesTag_derived {tag : String} (ht : tag ∈ p.derived doc draft child k) :
    p.settings.hide.matchesTag tag = false := by
  rw [derived] at ht
  split at ht
  · exact (Tagging.mem_added.mp ht).2.1
  · cases ht

theorem supplement_derived : Tagging.Supplement (p.settings.hide.visible child.tags)
    (p.derived doc draft child k) := by
  rw [derived]
  split
  · exact Tagging.supplement_added
  · exact Tagging.supplement_nil

theorem Bears.tags_eq (hb : p.Bears doc draft child k b) :
    b.draft.tags = p.settings.hide.visible child.tags := by
  obtain ⟨s, hs, -, he⟩ := hb.draft_eq
  rw [he]
  exact (Drafter.drafts_of_child hs).tags

theorem Bears.tags_taggingOf (hb : p.Bears doc draft child k b) :
    (p.taggingOf b).tags = p.settings.hide.visible child.tags ++ p.derived doc draft child k := by
  rw [taggingOf, derived, hb.tags_eq, hb.sources_eq]
  split
  · exact (Tagging.took_read _ _ _).tags_eq
  · exact (List.append_nil _).symm

theorem Bears.mem_tags_entryOf (hb : p.Bears doc draft child k b) {tag : String} :
    tag ∈ (p.entryOf b).tags ↔ tag ∈ p.classification doc draft child k := by
  have htags := hb.tags_taggingOf
  have hsub (hv : tag ∈ p.settings.hide.visible child.tags) : tag ∈ child.tags :=
    (TagFilter.mem_visible.mp hv).1
  simp only [Entry.tags, entryOf, hb.child_eq, htags, classification, derived, List.mem_append]
  by_cases hd : p.settings.remarks.derives
  · have hhid : (p.taggingOf b).hidden = (Tagging.offers (p.settings.hide.visible child.tags)
        (p.candidates doc draft k)).filter p.settings.hide.matchesTag := by
      rw [taggingOf, if_pos hd, hb.tags_eq, hb.sources_eq]
      exact (Tagging.took_read _ _ _).hidden_eq
    rw [hhid, if_pos hd, if_pos hd, List.mem_filter, Tagging.mem_added]
    constructor
    · intro h
      rcases h with (hw | ⟨ho, -⟩) | hv | ⟨ho, -⟩
      exacts [.inl hw, .inr ho, .inl (hsub hv), .inr ho]
    · intro h
      rcases h with hw | ho
      · exact .inl (.inl hw)
      · cases hm : p.settings.hide.matchesTag tag with
        | true => exact .inl (.inr ⟨ho, rfl⟩)
        | false =>
          by_cases hv : tag ∈ p.settings.hide.visible child.tags
          · exact .inr (.inl hv)
          · exact .inr (.inr ⟨ho, rfl, hv⟩)
  · have hhid : (p.taggingOf b).hidden = [] := by
      rw [taggingOf, if_neg hd]
      rfl
    rw [hhid, if_neg hd, if_neg hd]
    simpa using hsub

theorem Bears.excludes_eq (hb : p.Bears doc draft child k b) : p.excludes (p.entryOf b) =
    p.settings.exclude.matchesAny (p.classification doc draft child k) := by
  rw [Bool.eq_iff_iff, excludes, TagFilter.matchesAny, TagFilter.matchesAny, List.any_eq_true,
    List.any_eq_true]
  exact exists_congr fun tag ↦ and_congr_left fun _ ↦ hb.mem_tags_entryOf

theorem Bears.shows (hb : p.Bears doc draft child k b) :
    p.Shows doc draft child k
      ((p.entryOf b).onPage (p.slugOf doc.feature.name) p.settings.remarks.retains) := by
  obtain ⟨s, hs, -, he⟩ := hb.draft_eq
  have hdr := Drafter.drafts_of_child hs
  have hslug : ((p.entryOf b).onPage (p.slugOf doc.feature.name) p.settings.remarks.retains).slug =
      b.draft.slug := rfl
  have hbare (j : Nat) (hj : j < s.steps.length) : s.steps[j].remarks = [] :=
    hdr.bare _ (List.getElem_mem hj)
  refine ⟨s, hs, ?_, ?_⟩
  · rw [hslug, he]
    exact hdr.slug
  · have ht : (p.entryOf b).tagging.tags =
        p.settings.hide.visible child.tags ++ p.derived doc draft child k := hb.tags_taggingOf
    rw [Entry.onPage, ht, entryOf, he, Commentary.attachedSection]
    congr 1
    by_cases hr : p.settings.remarks.retains
    · simp only [hr, if_true]
      apply List.mapIdx_eq_mapIdx_iff.mpr
      intro j hj
      rw [hbare j hj, List.nil_append]
    · simp only [hr, if_false, Bool.false_eq_true]
      exact map_mapIdx _ _ _

variable (h : (p.drafter doc.feature).feature doc.feature = .ok draft)

include h in
theorem forall₂_bearers : List.Forall₂ (fun ck b ↦ p.Bears doc draft ck.1 ck.2 b)
    doc.feature.children.zipIdx (p.bearers doc draft) := by
  have hsec := Drafter.forall₂_sections h
  have hlen : doc.feature.children.length = draft.sections.length := hsec.length_eq
  have hat : (p.commentary doc draft).attached.sections.length = draft.sections.length :=
    Commentary.length_attached _
  have hsrc := (p.commentary doc draft).attached.length_sources
  refine List.forall₂_iff_get.mpr ⟨?_, fun k hk hk' ↦ ?_⟩
  · simp [bearers, hlen, hat, hsrc]
  · have hk : k < doc.feature.children.length := by simpa using hk
    obtain ⟨hc, hs, hl⟩ := getElem?_bearers.mp (List.getElem?_eq_getElem hk')
    rw [List.getElem?_eq_getElem hk, Option.some.injEq] at hc
    rw [Commentary.getElem?_attached, Option.map_eq_some_iff] at hs
    obtain ⟨s, hs, he⟩ := hs
    obtain ⟨hks, rfl⟩ := List.getElem?_eq_some_iff.mp hs
    simp only [List.get_eq_getElem, List.getElem_zipIdx, Nat.zero_add]
    exact ⟨hc.symm, ⟨_, hsec.get hk hks, hs, he.symm⟩, by rw [candidates, hl, Option.getD_some]⟩

theorem Shows.own {t : Section} (ht : p.Shows doc draft child k t) :
    t.title = child.name ∧ t.position = child.position ∧
      t.tags = p.settings.hide.visible child.tags ++ p.derived doc draft child k := by
  obtain ⟨s, hs, -, rfl⟩ := ht
  have hdr := Drafter.drafts_of_child hs
  exact ⟨hdr.title, hdr.position, rfl⟩

/-- A child is shown in one way. -/
theorem Shows.unique {t u : Section} (ht : p.Shows doc draft child k t)
    (hu : p.Shows doc draft child k u) : t = u := by
  obtain ⟨s, hs, -, rfl⟩ := ht
  obtain ⟨s', hs', -, rfl⟩ := hu
  rw [hs, Except.ok.injEq] at hs'
  rw [hs']

theorem included_sublist :
    ((p.included doc draft).map Prod.fst).Sublist doc.feature.children := by
  have hs : ((p.included doc draft).map Prod.fst).Sublist
      (doc.feature.children.zipIdx.map Prod.fst) := List.filter_sublist.map Prod.fst
  rwa [List.zipIdx_map_fst] at hs

theorem publish_eq_ok {e : Edition} : p.publish doc = .ok e ↔
    ∃ draft, (p.drafter doc.feature).feature doc.feature = .ok draft ∧ p.finish doc draft = e := by
  rw [publish]
  cases (p.drafter doc.feature).feature doc.feature <;> simp [Except.map]

variable (p doc draft) in
def kept : List Bearer := (p.bearers doc draft).filter fun b ↦ !p.excludes (p.entryOf b)

theorem page_finish : (p.finish doc draft).page =
    if p.settings.exclude.matchesAny doc.feature.tags ∨
        p.bearers doc draft ≠ [] ∧ p.kept doc draft = [] then none
    else some (p.page doc.feature draft.background (p.commentary doc draft).attached.remarks
      ((p.kept doc draft).map p.entryOf)) := by
  have hk : ((p.bearers doc draft).map p.entryOf).filter (fun e ↦ !p.excludes e) =
      (p.kept doc draft).map p.entryOf := List.filter_map
  rw [finish, entries_eq, edit, hk]
  by_cases hf : p.settings.exclude.matchesAny doc.feature.tags
  · simp [hf]
  · by_cases hn : p.bearers doc draft ≠ [] ∧ p.kept doc draft = []
    · simp [hf, hn]
    · have hb : (!((p.bearers doc draft).map p.entryOf).isEmpty &&
          ((p.kept doc draft).map p.entryOf).isEmpty) = false := by
        simpa [not_and'] using hn
      simp only [hf, hn, hb, or_self, if_false, Bool.false_eq_true]

include h in
theorem forall₂_kept : List.Forall₂ (fun ck b ↦ p.Bears doc draft ck.1 ck.2 b)
    (p.included doc draft) (p.kept doc draft) := by
  refine List.rel_filter (fun ck b hb ↦ ?_) (forall₂_bearers h)
  simp [hb.excludes_eq]

include h in
theorem bearers_eq_nil : p.bearers doc draft = [] ↔ doc.feature.children = [] := by
  have hl := (forall₂_bearers h).length_eq
  rw [List.length_zipIdx] at hl
  rw [← List.length_eq_zero_iff, ← hl, List.length_eq_zero_iff]

include h in
theorem kept_eq_nil : p.kept doc draft = [] ↔ ∀ ck ∈ doc.feature.children.zipIdx,
    p.settings.exclude.matchesAny (p.classification doc draft ck.1 ck.2) := by
  have hl := (forall₂_kept h).length_eq
  rw [← List.length_eq_zero_iff, ← hl, List.length_eq_zero_iff, included, List.filter_eq_nil_iff]
  exact forall₂_congr fun ck _ ↦ by rw [Bool.not_eq_true', Bool.not_eq_false]

include h in
theorem page_eq_none_iff : (p.finish doc draft).page = none ↔
    p.settings.exclude.matchesAny doc.feature.tags ∨
      doc.feature.children ≠ [] ∧ ∀ ck ∈ doc.feature.children.zipIdx,
        p.settings.exclude.matchesAny (p.classification doc draft ck.1 ck.2) := by
  rw [page_finish, ite_eq_left_iff, ne_eq, bearers_eq_nil h, kept_eq_nil h]
  simp only [reduceCtorEq, imp_false, not_not, ne_eq]

section Page

variable {page : Page} (hp : (p.finish doc draft).page = some page)
include hp

theorem page_eq_some : page = p.page doc.feature draft.background
    (p.commentary doc draft).attached.remarks ((p.kept doc draft).map p.entryOf) := by
  rw [page_finish] at hp
  split at hp
  · cases hp
  · exact (Option.some.inj hp).symm

theorem page_eq_frame : page = { p.page doc.feature draft.background
    (p.commentary doc draft).attached.remarks [] with sections := page.sections } := by
  rw [page_eq_some hp]
  rfl

include h in
/-- The sections of a page are those of the children that are not excluded, in order. -/
theorem forall₂_shows : List.Forall₂ (fun ck t ↦ p.Shows doc draft ck.1 ck.2 t)
    (p.included doc draft) page.sections := by
  rw [page_eq_some hp, Publisher.page, List.map_map, List.forall₂_map_right_iff]
  exact (forall₂_kept h).imp fun ck b hb ↦ hb.shows

end Page

end Publisher

end LivingDoc
