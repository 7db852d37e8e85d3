import LivingDoc.Proofs.Attribution

namespace LivingDoc

open Citation (IsThemeTag IsStoryTag)

def Reference.Names : Reference → String → Prop
  | theme => IsThemeTag
  | story => IsStoryTag

namespace Tagging

variable {hide : TagFilter} {tags : List String} {t : Tagging} {r : Reference} {tag : String}

def shown (t : Tagging) : List String := (t.findings.filter (!·.hidden)).map Finding.tag

/-- What the findings of a section tell of the tags that it has by now. -/
structure Told (tags : List String) (t : Tagging) : Prop where
  tags_eq : t.tags = tags ++ t.shown
  names : ∀ f ∈ t.findings, f.reference.Names f.tag

theorem told_start : Told tags (start tags) :=
  ⟨(List.append_nil tags).symm, by simp [start]⟩

theorem Told.give (h : Told tags t) (hr : r.Names tag) : Told tags (t.give hide r tag) := by
  have hnames (hidden : Bool) :
      ∀ f ∈ t.findings ++ [⟨r, tag, hidden⟩], f.reference.Names f.tag := by
    simpa [or_imp, forall_and, hr] using h.names
  have ht := h.tags_eq
  rw [shown] at ht
  rw [Tagging.give]
  split
  · exact ⟨by simpa [shown] using ht, hnames true⟩
  · split
    · exact h
    · exact ⟨by simp [shown, ht], hnames false⟩

theorem Told.cite (h : Told tags t) (text : String) :
    Told tags (t.cite hide (.ofText text)) := by
  have htheme : Told tags
      (((Citation.ofText text).themeTag.map (t.give hide .theme)).getD t) := by
    cases ht : (Citation.ofText text).theme with
    | none => simpa [Citation.themeTag, ht] using h
    | some theme =>
      rw [Citation.themeTag, ht]
      exact h.give ⟨theme, Citation.isTheme_of_ofText ht, rfl⟩
  rw [Tagging.cite]
  split
  · exact htheme
  · cases hs : (Citation.ofText text).story with
    | none => simpa [Citation.storyTag, hs] using htheme
    | some story =>
      rw [Citation.storyTag, hs]
      exact htheme.give ⟨story, Citation.isStory_of_ofText hs, rfl⟩

theorem told_read (hide : TagFilter) (tags : List String) (remarks : List Remark) :
    Told tags ((start tags).read hide remarks) := by
  induction remarks using List.reverseRecOn with
  | nil => exact told_start
  | append_singleton remarks r ih =>
    rw [read, List.foldl_append, List.foldl_cons, List.foldl_nil]
    exact ih.cite r.text

end Tagging

namespace Publisher

variable (p : Publisher) (doc : Gherkin.Document) (draft : Draft)

def events : List Event :=
  match p.publish doc with
  | .error _ => []
  | .ok e => e.events

def withheld (child : Gherkin.Child) (k : Nat) : List String :=
  if p.settings.remarks.derives then
    (Tagging.offers (p.settings.hide.visible child.tags) (p.candidates doc draft k)).filter
      p.settings.hide.matchesTag else []

/-- The children that are left out, with their numbers. -/
def dropped : List (Gherkin.Child × Nat) :=
  doc.feature.children.zipIdx.filter fun ck ↦
    p.settings.exclude.matchesAny (p.classification doc draft ck.1 ck.2)

def tellStrays : List Event :=
  ((p.commentary doc draft).attached.remarks.filter (·.role = .unattached)).map fun r ↦
    if ∀ child ∈ doc.feature.children, r.position.line ≤ child.position.line then
      .remarkAboveSections r.position.line
    else .remarkWithoutStep r.position.line

/-- What is told of the tags that remarks offer to a child: those that are added, in order, and
those that are kept off, in order. -/
def TellsTags (ck : Gherkin.Child × Nat) (l : List Event) : Prop :=
  ∃ found : List Finding, l = found.map (.tagFound ck.1.name) ∧
    (found.filter (!·.hidden)).map Finding.tag = p.derived doc draft ck.1 ck.2 ∧
    (found.filter (·.hidden)).map Finding.tag = p.withheld doc draft ck.1 ck.2 ∧
    (∀ f ∈ found, f.reference.Names f.tag) ∧ (p.settings.remarks.derives = false → found = [])

def tellDropped : List Event :=
  (p.dropped doc draft).map fun ck ↦
    .sectionExcluded doc.feature.name ck.1.name ck.1.position.line

inductive Closes : Option Page → List Event → Prop
  | featureExcluded : p.settings.exclude.matchesAny doc.feature.tags →
      Closes none [.featureExcluded doc.feature.name]
  | nothingLeft : p.settings.exclude.matchesAny doc.feature.tags = false →
      doc.feature.children ≠ [] → p.included doc draft = [] →
      Closes none (p.tellDropped doc draft ++
        [.nothingLeft doc.feature.name doc.feature.children.length])
  | published {page : Page} : p.settings.exclude.matchesAny doc.feature.tags = false →
      List.Forall₂ (fun ck s ↦ s.title = ck.1.name ∧ s.position = ck.1.position ∧
        s.tags = p.settings.hide.visible ck.1.tags ++ p.derived doc draft ck.1 ck.2)
        (p.included doc draft) page.sections →
      page.sections.length + (p.dropped doc draft).length = doc.feature.children.length →
      Closes (some page) (p.tellDropped doc draft ++
        [.published doc.feature.name page.sections.length (p.dropped doc draft).length
          page.remarks.length])

/-- What is told of a document of which a page comes, or none, or an error: first of the remarks
that are on no step, in reading order; then of the tags of each child, one child after the other;
and then of what is left out. -/
inductive Tells : Except DraftError (Option Page) → List Event → Prop
  | refused (err : DraftError) : Tells (.error err) []
  | drafted {draft : Draft} {page : Option Page} {tags : List (List Event)}
      {closing : List Event} : (p.drafter doc.feature).feature doc.feature = .ok draft →
      (p.commentary doc draft).attached.remarks.Pairwise
        (fun r s ↦ r.position.le s.position) →
      List.Forall₂ (p.TellsTags doc draft) doc.feature.children.zipIdx tags →
      p.Closes doc draft page closing →
      Tells (.ok page) (p.tellStrays doc draft ++ tags.flatten ++ closing)

variable {p doc draft} {b : Bearer} {child : Gherkin.Child} {k : Nat}

theorem strays_placed (h : (p.drafter doc.feature).feature doc.feature = .ok draft) :
    strays (p.commentary doc draft).placed = p.tellStrays doc draft := by
  have hu : ∀ r ∈ (p.commentary doc draft).remarks, r.role = .unattached := by
    cases hc : p.settings.remarks.collects with
    | true => exact (fresh_commentary hc h).unattached
    | false => simp [commentary, hc]
  have habove (line : Nat) : (∀ child ∈ doc.feature.children, line ≤ child.position.line) ↔
      Site.locate draft.sections line = .aboveSections := by
    rw [Site.locate_eq_above, Site.owner_eq_none]
    exact forall_mem_iff (Drafter.forall₂_sections h) fun c s hs ↦ by
      rw [(Drafter.drafts_of_child hs).position]
  have hsec : (p.commentary doc draft).sections = draft.sections := rfl
  rw [strays, tellStrays, Commentary.remarks_attached, List.filter_map, List.map_map,
    Commentary.placed, List.filterMap_map, ← List.filterMap_eq_map, List.filterMap_filter]
  refine List.filterMap_congr fun r hr ↦ ?_
  simp only [Function.comp_apply, Commentary.settled, Placed.find, hsec, habove]
  cases hs : Site.locate draft.sections r.position.line with
  | step i j role =>
    have hrole : role ≠ .unattached := fun h ↦ Site.locate_ne_unattached (h ▸ hs)
    simp [Site.role?, hrole]
  | aboveSections | withoutStep => simp [Site.role?, hu r hr]

theorem Bears.header_eq (hb : p.Bears doc draft child k b) :
    b.draft.title = child.name ∧ b.draft.position = child.position := by
  obtain ⟨s, hs, -, he⟩ := hb.draft_eq
  have hdr := Drafter.drafts_of_child hs
  rw [he]
  exact ⟨hdr.title, hdr.position⟩

theorem Bears.tellsTags (hb : p.Bears doc draft child k b) :
    p.TellsTags doc draft (child, k) (p.entryOf b).findings := by
  refine ⟨(p.taggingOf b).findings, by rw [Entry.findings, entryOf, hb.header_eq.1], ?_⟩
  cases hd : p.settings.remarks.derives with
  | false =>
    have hnone : (p.taggingOf b).findings = [] := by
      rw [taggingOf, hd, if_neg Bool.false_ne_true]
      rfl
    simp [hnone, derived_of_not hd, withheld, hd]
  | true =>
    have hread : p.taggingOf b = (Tagging.start (p.settings.hide.visible child.tags)).read
        p.settings.hide (p.candidates doc draft k) := by
      rw [taggingOf, hd, if_pos rfl, hb.tags_eq, hb.sources_eq]
    have hold := Tagging.told_read p.settings.hide (p.settings.hide.visible child.tags)
      (p.candidates doc draft k)
    have htook := Tagging.took_read p.settings.hide (p.settings.hide.visible child.tags)
      (p.candidates doc draft k)
    rw [derived, withheld, hd, if_pos rfl, if_pos rfl, hread]
    refine ⟨List.append_cancel_left (hold.tags_eq.symm.trans htook.tags_eq), htook.hidden_eq,
      hold.names, ?_⟩
    intro h
    cases h

theorem length_included_add_dropped (p : Publisher) (doc : Gherkin.Document) (draft : Draft) :
    (p.included doc draft).length + (p.dropped doc draft).length = doc.feature.children.length := by
  have hl := List.length_eq_length_filter_add (l := doc.feature.children.zipIdx) fun ck ↦
    p.settings.exclude.matchesAny (p.classification doc draft ck.1 ck.2)
  rw [List.length_zipIdx] at hl
  rw [hl, Nat.add_comm]
  rfl

/-- The remarks that are looked at stay in reading order. -/
theorem pairwise_attached : (p.commentary doc draft).attached.remarks.Pairwise
    (fun r s ↦ r.position.le s.position) := by
  rw [Commentary.remarks_attached, List.pairwise_map]
  cases hc : p.settings.remarks.collects with
  | true =>
    rw [remarks_commentary hc, List.pairwise_map]
    exact doc.pairwise_inOrder
  | false => simp [commentary, hc]

section Drafted

variable (h : (p.drafter doc.feature).feature doc.feature = .ok draft)
include h

theorem forall₂_dropped : List.Forall₂ (fun ck b ↦ p.Bears doc draft ck.1 ck.2 b)
    (p.dropped doc draft) ((p.bearers doc draft).filter (p.excludes ∘ p.entryOf)) :=
  List.rel_filter (fun ck b hb ↦ by simp [hb.excludes_eq]) (forall₂_bearers h)

theorem losses_eq : (((p.bearers doc draft).map p.entryOf).filter p.excludes).map (fun e ↦
    .sectionExcluded doc.feature.name e.draft.title e.draft.position.line) =
      p.tellDropped doc draft := by
  rw [List.filter_map, List.map_map, tellDropped, eq_comm, ← List.forall₂_eq_eq_eq,
    List.forall₂_map_left_iff, List.forall₂_map_right_iff]
  exact (forall₂_dropped h).imp fun ck b hb ↦ by
    rw [Function.comp_apply, entryOf, hb.header_eq.1, hb.header_eq.2]

theorem length_losses : (((p.bearers doc draft).map p.entryOf).filter p.excludes).length =
    (p.dropped doc draft).length := by
  rw [List.filter_map, List.length_map, (forall₂_dropped h).length_eq]

theorem forall₂_page : List.Forall₂ (fun ck s ↦ s.title = ck.1.name ∧
    s.position = ck.1.position ∧
    s.tags = p.settings.hide.visible ck.1.tags ++ p.derived doc draft ck.1 ck.2)
    (p.included doc draft) (p.page doc.feature draft.background
      (p.commentary doc draft).attached.remarks ((p.kept doc draft).map p.entryOf)).sections := by
  rw [Publisher.page, List.map_map, List.forall₂_map_right_iff]
  exact (forall₂_kept h).imp fun ck b hb ↦ hb.shows.own

theorem closes_edit {e : Edition} (he : p.edit doc.feature draft.background
    (p.commentary doc draft).attached.remarks ((p.bearers doc draft).map p.entryOf) = e) :
    p.Closes doc draft e.page e.events := by
  have hkept : ((p.bearers doc draft).map p.entryOf).filter (fun e ↦ !p.excludes e) =
      (p.kept doc draft).map p.entryOf := List.filter_map
  simp only [edit, hkept, losses_eq h, length_losses h, List.length_map, List.isEmpty_map] at he
  by_cases hf : p.settings.exclude.matchesAny doc.feature.tags
  · rw [if_pos hf] at he
    subst he
    exact .featureExcluded hf
  · rw [if_neg hf] at he
    rw [Bool.not_eq_true] at hf
    split at he
    · next hn =>
      obtain ⟨hb, hk⟩ : p.bearers doc draft ≠ [] ∧ p.kept doc draft = [] := by simpa using hn
      have hlen : (p.bearers doc draft).length = doc.feature.children.length := by
        rw [← (forall₂_bearers h).length_eq, List.length_zipIdx]
      have hi : p.included doc draft = [] := by
        rw [← List.length_eq_zero_iff, (forall₂_kept h).length_eq, hk, List.length_nil]
      subst he
      rw [hlen]
      exact .nothingLeft hf (fun hc ↦ hb ((bearers_eq_nil h).mpr hc)) hi
    · have hlen : (p.page doc.feature draft.background (p.commentary doc draft).attached.remarks
          ((p.kept doc draft).map p.entryOf)).sections.length = (p.kept doc draft).length := by
        rw [Publisher.page, List.length_map, List.length_map]
      subst he
      rw [← hlen]
      refine .published hf (forall₂_page h) ?_
      rw [← (forall₂_page h).length_eq, length_included_add_dropped]

end Drafted

/-- What is told accounts for what comes of a document. -/
theorem tells_publish (p : Publisher) (doc : Gherkin.Document) :
    p.Tells doc ((p.publish doc).map Edition.page) (p.events doc) := by
  rw [events, publish]
  cases h : (p.drafter doc.feature).feature doc.feature with
  | error err => exact .refused err
  | ok draft =>
    have hfound : List.Forall₂ (p.TellsTags doc draft) doc.feature.children.zipIdx
        ((p.bearers doc draft).map fun b ↦ (p.entryOf b).findings) :=
      List.forall₂_map_right_iff.mpr ((forall₂_bearers h).imp fun ck b hb ↦ hb.tellsTags)
    have htold := Tells.drafted h pairwise_attached hfound (closes_edit h rfl)
    rw [← strays_placed h] at htold
    have hentries : ((p.bearers doc draft).map p.entryOf).flatMap Entry.findings =
        ((p.bearers doc draft).map fun b ↦ (p.entryOf b).findings).flatten := by
      rw [List.flatMap_map, List.flatMap_def]
    simpa only [Except.map, finish, entries_eq, hentries] using htold

end Publisher

end LivingDoc
