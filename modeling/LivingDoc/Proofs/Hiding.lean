import LivingDoc.Proofs.Obscured
import LivingDoc.Proofs.Publication

namespace LivingDoc

theorem map_filter_eq_iff {α β : Type} {x y : α → Bool} {f g : α → β} {l : List α}
    (h : ∀ a ∈ l, y a → x a) : (l.filter y).map g = (l.filter x).map f ↔
      ∀ a ∈ l, x a → y a ∧ g a = f a := by
  induction l with
  | nil => simp
  | cons a l ih =>
    obtain ⟨ha, hl⟩ := List.forall_mem_cons.mp h
    rw [List.forall_mem_cons, ← ih hl]
    by_cases hx : x a
    · by_cases hy : y a
      · rw [List.filter_cons_of_pos hx, List.filter_cons_of_pos hy, List.map_cons, List.map_cons,
          List.cons.injEq]
        simp [hx, hy]
      · have hle : ((l.filter y).map g).length ≤ ((l.filter x).map f).length := by
          rw [List.length_map, List.length_map, ← List.countP_eq_length_filter,
            ← List.countP_eq_length_filter]
          exact List.countP_mono_left hl
        have hne : (l.filter y).map g ≠ f a :: (l.filter x).map f := by
          intro he
          have := congrArg List.length he
          rw [List.length_cons] at this
          omega
        rw [List.filter_cons_of_pos hx, List.filter_cons_of_neg hy, List.map_cons]
        simp [hx, hy, hne]
    · have hy : ¬ y a := fun hy ↦ hx (ha hy)
      rw [List.filter_cons_of_neg hx, List.filter_cons_of_neg hy]
      simp [hx]

theorem Site.locate_veil (hide : TagFilter) (l : List Section) (line : Nat) :
    locate (l.map (Section.veil hide)) line = locate l line := by
  induction l with
  | nil => rfl
  | cons s l ih =>
    rw [List.map_cons, locate, locate, ih]
    rfl

namespace Commentary

def veil (hide : TagFilter) (c : Commentary) : Commentary :=
  { c with sections := c.sections.map (Section.veil hide) }

variable (hide : TagFilter) (c : Commentary)

theorem placed_veil : (c.veil hide).placed = c.placed := by
  apply List.map_congr_left
  intro r _
  rw [Placed.find, veil, Site.locate_veil]
  rfl

theorem attachedSection_veil (k : Nat) (s : Section) :
    (c.veil hide).attachedSection k (s.veil hide) = (c.attachedSection k s).veil hide := by
  rw [attachedSection, placed_veil]
  rfl

theorem attached_veil : (c.veil hide).attached = c.attached.veil hide := by
  have hs : (c.veil hide).attached.sections = c.attached.sections.map (Section.veil hide) := by
    apply List.ext_getElem?
    intro k
    rw [getElem?_attached, List.getElem?_map, getElem?_attached, veil, List.getElem?_map,
      Option.map_map, Option.map_map]
    exact congrArg (Option.map · _) (funext (attachedSection_veil hide c k))
  rw [attached, placed_veil] at hs ⊢
  exact congrArg (Commentary.mk · _) hs

theorem sources_veil : (c.veil hide).sources = c.sources := by
  have ho : (c.veil hide).opening = c.opening := by
    rw [opening, opening, veil]
    cases c.sections <;> rfl
  rw [sources, sources, ho, veil, List.map_map, List.zipWith_map_right]
  rfl

end Commentary

def Page.veil (hide : TagFilter) (page : Page) : Page :=
  { page with
    tags := hide.visible page.tags
    sections := page.sections.map (Section.veil hide) }

def Bearer.veil (hide : TagFilter) (b : Bearer) : Bearer := { b with draft := b.draft.veil hide }

namespace Publisher

def unhidden (p : Publisher) : Publisher :=
  { p with settings := { p.settings with hide := .empty } }

variable {p : Publisher} {doc : Gherkin.Document} {draft : Draft} {b : Bearer}
  {child : Gherkin.Child} {k : Nat}

theorem hide_unhidden (p : Publisher) : p.unhidden.settings.hide = .empty := rfl

theorem exclude_unhidden (p : Publisher) : p.unhidden.settings.exclude = p.settings.exclude := rfl

theorem remarks_unhidden (p : Publisher) : p.unhidden.settings.remarks = p.settings.remarks := rfl

theorem feature_unhidden (p : Publisher) (f : Gherkin.Feature) : (p.drafter f).feature f =
    ((p.unhidden.drafter f).feature f).map (Draft.veil p.settings.hide) :=
  Drafter.feature_veil _ f

theorem attached_unhidden (p : Publisher) (doc : Gherkin.Document) (draft : Draft) :
    (p.commentary doc (draft.veil p.settings.hide)).attached =
      (p.unhidden.commentary doc draft).attached.veil p.settings.hide :=
  Commentary.attached_veil _ (p.unhidden.commentary doc draft)

theorem candidates_unhidden (p : Publisher) (doc : Gherkin.Document) (draft : Draft) (k : Nat) :
    p.candidates doc (draft.veil p.settings.hide) k = p.unhidden.candidates doc draft k := by
  rw [candidates, attached_unhidden, Commentary.sources_veil, candidates]

theorem bearers_unhidden (p : Publisher) (doc : Gherkin.Document) (draft : Draft) :
    p.bearers doc (draft.veil p.settings.hide) =
      (p.unhidden.bearers doc draft).map (Bearer.veil p.settings.hide) := by
  rw [bearers, attached_unhidden, bearers, Commentary.sources_veil, Commentary.veil,
    List.zip_map_left, List.zipWith_map_right, List.map_zipWith]
  rfl

theorem Bears.veil (hb : p.unhidden.Bears doc draft child k b) :
    p.Bears doc (draft.veil p.settings.hide) child k (b.veil p.settings.hide) where
  child_eq := hb.child_eq
  draft_eq := by
    obtain ⟨s, hs, hk, he⟩ := hb.draft_eq
    refine ⟨s.veil p.settings.hide, ?_, ?_, ?_⟩
    · have hc : (p.drafter doc.feature).child child =
          ((p.unhidden.drafter doc.feature).child child).map (Section.veil p.settings.hide) :=
        Drafter.child_veil child
      rw [hc, hs]
      rfl
    · rw [Draft.veil, List.getElem?_map, hk, Option.map_some]
    · rw [Bearer.veil, he]
      exact (Commentary.attachedSection_veil _ (p.unhidden.commentary doc draft) k s).symm
  sources_eq := hb.sources_eq.trans (candidates_unhidden p doc draft k).symm

/-- The stories that a child is offered anew once tags are hidden. -/
def obscured (p : Publisher) (doc : Gherkin.Document) (draft : Draft) (child : Gherkin.Child)
    (k : Nat) (story : String) : Prop :=
  p.settings.remarks.derives ∧ Tagging.Obscured p.settings.hide child.tags
    (p.unhidden.candidates doc draft k) story

theorem derived_veil_iff : p.derived doc (draft.veil p.settings.hide) child k =
      p.settings.hide.visible (p.unhidden.derived doc draft child k) ↔
    ∀ story, p.obscured doc draft child k story →
      p.settings.hide.matchesTag ("@B_" ++ story) ∨ "@B_" ++ story ∈ child.tags := by
  by_cases hd : p.settings.remarks.derives
  · rw [derived, derived, remarks_unhidden, if_pos hd, if_pos hd, hide_unhidden,
      TagFilter.visible_empty, candidates_unhidden, Tagging.added_visible_iff]
    exact forall_congr' fun story ↦ by rw [obscured, and_iff_right hd]
  · rw [derived, derived, remarks_unhidden, if_neg hd, if_neg hd]
    exact iff_of_true rfl fun story ho ↦ absurd ho.1 hd

theorem classification_unhidden (hd : p.settings.remarks.derives) :
    p.unhidden.classification doc draft child k =
      child.tags ++ Tagging.offers child.tags (p.unhidden.candidates doc draft k) := by
  rw [classification, remarks_unhidden, if_pos hd, hide_unhidden, TagFilter.visible_empty]

theorem classification_veil (hd : p.settings.remarks.derives) :
    p.classification doc (draft.veil p.settings.hide) child k =
      child.tags ++ Tagging.offers (p.settings.hide.visible child.tags)
        (p.unhidden.candidates doc draft k) := by
  rw [classification, if_pos hd, candidates_unhidden]

theorem classification_of_not (hd : ¬ p.settings.remarks.derives) :
    p.classification doc (draft.veil p.settings.hide) child k =
      p.unhidden.classification doc draft child k := by
  rw [classification, classification, remarks_unhidden, if_neg hd, if_neg hd]

/-- Hiding excludes no fewer children. -/
theorem matchesAny_classification_mono
    (h : p.settings.exclude.matchesAny (p.unhidden.classification doc draft child k)) :
    p.settings.exclude.matchesAny
      (p.classification doc (draft.veil p.settings.hide) child k) := by
  by_cases hd : p.settings.remarks.derives
  · rw [classification_unhidden hd, TagFilter.matchesAny_append, Bool.or_eq_true] at h
    rw [classification_veil hd, TagFilter.matchesAny_append, Bool.or_eq_true]
    exact h.imp_right Tagging.matchesAny_offers_mono
  · rwa [classification_of_not hd]

/-- Of the children that are not excluded, hiding excludes those with an obscured story whose tag
is excluded. -/
theorem matchesAny_classification_veil
    (h : p.settings.exclude.matchesAny (p.unhidden.classification doc draft child k) = false) :
    p.settings.exclude.matchesAny
        (p.classification doc (draft.veil p.settings.hide) child k) = false ↔
      ∀ story, p.obscured doc draft child k story →
        p.settings.exclude.matchesTag ("@B_" ++ story) = false := by
  by_cases hd : p.settings.remarks.derives
  · rw [classification_unhidden hd, TagFilter.matchesAny_append, Bool.or_eq_false_iff] at h
    rw [classification_veil hd, TagFilter.matchesAny_append, h.1, Bool.false_or,
      Tagging.matchesAny_offers_visible h.2]
    exact forall_congr' fun story ↦ by rw [obscured, and_iff_right hd]
  · rw [classification_of_not hd]
    exact iff_of_true h fun story ho ↦ absurd ho.1 hd

theorem Bears.onPage_veil_iff (hb : p.unhidden.Bears doc draft child k b) (id : String)
    (retains : Bool) :
    (p.entryOf (b.veil p.settings.hide)).onPage id retains =
        ((p.unhidden.entryOf b).onPage id retains).veil p.settings.hide ↔
      ∀ story, p.obscured doc draft child k story →
        p.settings.hide.matchesTag ("@B_" ++ story) ∨ "@B_" ++ story ∈ child.tags := by
  have hv : (p.entryOf (b.veil p.settings.hide)).tagging.tags =
      p.settings.hide.visible child.tags ++ p.derived doc (draft.veil p.settings.hide) child k :=
    hb.veil.tags_taggingOf
  have hu : (p.unhidden.entryOf b).tagging.tags =
      child.tags ++ p.unhidden.derived doc draft child k := by
    rw [entryOf, hb.tags_taggingOf, hide_unhidden, TagFilter.visible_empty]
  rw [← derived_veil_iff]
  constructor
  · intro h
    have ht : (p.entryOf (b.veil p.settings.hide)).tagging.tags =
        p.settings.hide.visible (p.unhidden.entryOf b).tagging.tags := congrArg Section.tags h
    rw [hv, hu, TagFilter.visible_append] at ht
    exact List.append_cancel_left ht
  · intro h
    rw [Entry.onPage, hv, h, ← TagFilter.visible_append, ← hu]
    rfl

/-- Whether hiding leaves a child as it is: none of the obscured stories is excluded, and none is
shown that is not there anyway. -/
def Leaves (p : Publisher) (doc : Gherkin.Document) (draft : Draft) (child : Gherkin.Child)
    (k : Nat) : Prop :=
  ∀ story, p.obscured doc draft child k story →
    p.settings.exclude.matchesTag ("@B_" ++ story) = false ∧
      (p.settings.hide.matchesTag ("@B_" ++ story) ∨ "@B_" ++ story ∈ child.tags)

theorem sections_veil_iff (h : (p.unhidden.drafter doc.feature).feature doc.feature = .ok draft)
    (id : String) (retains : Bool) :
    (p.kept doc (draft.veil p.settings.hide)).map (fun b ↦ (p.entryOf b).onPage id retains) =
        ((p.unhidden.kept doc draft).map fun b ↦ (p.unhidden.entryOf b).onPage id retains).map
          (Section.veil p.settings.hide) ↔
      ∀ ck ∈ p.unhidden.included doc draft, p.Leaves doc draft ck.1 ck.2 := by
  have hb := forall₂_bearers h
  rw [kept, bearers_unhidden, List.filter_map, List.map_map, List.map_map, kept]
  refine (map_filter_eq_iff (forall_right hb fun ck b hb ↦ ?_)).trans ?_
  · rw [Function.comp_apply, hb.veil.excludes_eq, hb.excludes_eq, exclude_unhidden,
      Bool.not_eq_true', Bool.not_eq_true']
    intro hy
    by_contra hx
    rw [Bool.not_eq_false] at hx
    exact Bool.noConfusion (hy.symm.trans (matchesAny_classification_mono hx))
  · rw [included]
    simp only [List.mem_filter, and_imp]
    refine (forall_mem_iff hb fun ck b hb ↦ ?_).symm
    rw [Function.comp_apply, hb.veil.excludes_eq, hb.excludes_eq, exclude_unhidden,
      Bool.not_eq_true', Bool.not_eq_true']
    refine forall_congr' fun hx ↦ ?_
    refine Iff.trans ?_ (and_congr (matchesAny_classification_veil hx)
      (hb.onPage_veil_iff id retains)).symm
    exact ⟨fun hl ↦ ⟨fun s hs ↦ (hl s hs).1, fun s hs ↦ (hl s hs).2⟩,
      fun hl s hs ↦ ⟨hl.1 s hs, hl.2 s hs⟩⟩

theorem page_veil_iff (p : Publisher) (f : Gherkin.Feature) (background : Option Section)
    (remarks : List Remark) (l m : List Entry) : p.page f background remarks l =
      (p.unhidden.page f background remarks m).veil p.settings.hide ↔
    l.map (·.onPage (p.slugOf f.name) p.settings.remarks.retains) =
      (m.map (·.onPage (p.slugOf f.name) p.settings.remarks.retains)).map
        (Section.veil p.settings.hide) := by
  constructor
  · exact congrArg Page.sections
  · intro h
    rw [page, h, page, Page.veil, hide_unhidden, TagFilter.visible_empty]
    rfl

theorem page_finish_veil_iff (p : Publisher) (doc : Gherkin.Document) (draft : Draft) :
    (p.finish doc (draft.veil p.settings.hide)).page =
        (p.unhidden.finish doc draft).page.map (Page.veil p.settings.hide) ↔
      p.settings.exclude.matchesAny doc.feature.tags ∨
        (p.kept doc (draft.veil p.settings.hide)).map
            (fun b ↦ (p.entryOf b).onPage (p.slugOf doc.feature.name) p.settings.remarks.retains) =
          ((p.unhidden.kept doc draft).map fun b ↦ (p.unhidden.entryOf b).onPage
            (p.slugOf doc.feature.name) p.settings.remarks.retains).map
              (Section.veil p.settings.hide) := by
  have hr : (p.commentary doc (draft.veil p.settings.hide)).attached.remarks =
      (p.unhidden.commentary doc draft).attached.remarks := by
    rw [attached_unhidden]
    rfl
  have hpage := page_veil_iff p doc.feature draft.background
    (p.unhidden.commentary doc draft).attached.remarks
    ((p.kept doc (draft.veil p.settings.hide)).map p.entryOf)
    ((p.unhidden.kept doc draft).map p.unhidden.entryOf)
  simp only [List.map_map, Function.comp_def] at hpage ⊢
  have hb : p.bearers doc (draft.veil p.settings.hide) = [] ↔
      p.unhidden.bearers doc draft = [] := by
    rw [bearers_unhidden, List.map_eq_nil_iff]
  rw [page_finish, page_finish, hr, exclude_unhidden]
  by_cases hc : p.settings.exclude.matchesAny doc.feature.tags
  · simp [hc]
  · refine Iff.trans ?_ (or_iff_right hc).symm
    by_cases hn : p.unhidden.bearers doc draft = []
    · rw [if_neg (by simp [hc, hb, hn]), if_neg (by simp [hc, hn]), Option.map_some,
        Option.some_inj]
      exact hpage
    · by_cases hv : p.kept doc (draft.veil p.settings.hide) = [] <;>
        by_cases hu : p.unhidden.kept doc draft = []
      · simp [hc, hb, hn, hv, hu]
      · simp [hc, hb, hn, hv, hu]
      · simp [hc, hb, hn, hv, hu]
      · rw [if_neg (by simp [hc, hv]), if_neg (by simp [hc, hu]), Option.map_some,
          Option.some_inj]
        exact hpage

/-- What comes of a document is the same, hidden or not, exactly if hiding leaves each child that is
not excluded. -/
theorem publish_veil_iff (p : Publisher) (doc : Gherkin.Document) :
    (p.publish doc).map Edition.page =
        (p.unhidden.publish doc).map (fun e ↦ e.page.map (Page.veil p.settings.hide)) ↔
      ∀ draft, (p.unhidden.drafter doc.feature).feature doc.feature = .ok draft →
        p.settings.exclude.matchesAny doc.feature.tags ∨
          ∀ ck ∈ p.unhidden.included doc draft, p.Leaves doc draft ck.1 ck.2 := by
  rw [publish, publish, feature_unhidden]
  cases h : (p.unhidden.drafter doc.feature).feature doc.feature with
  | error e => simp [Except.map]
  | ok draft =>
    simp only [Except.map, Except.ok.injEq, forall_eq']
    rw [page_finish_veil_iff, sections_veil_iff h]

/-- A hidden former tag brings back the tag of its story, and so excludes the scenario. -/
theorem publish_veil_former :
    let scenario : Gherkin.Scenario := ⟨"Open", none, ["@B1"], [], ⟨3, 3⟩⟩
    let doc : Gherkin.Document :=
      ⟨⟨"Doors", none, [], none, none, [.scenario scenario], ⟨1, 1⟩⟩, [⟨"# (B-1)", ⟨2, 3⟩⟩]⟩
    let p : Publisher :=
      ⟨⟨⟨["B1"]⟩, ⟨["B_1"]⟩, ⟨true, false⟩, .info⟩, some ⟨[], [], [], [], []⟩, id⟩
    (p.publish doc).map Edition.page = .ok none ∧
      (∃ page, (p.unhidden.publish doc).map Edition.page = .ok (some page) ∧
        page.sections.map Section.tags = [["@B1"]]) ∧
      (p.publish doc).map Edition.page ≠
        (p.unhidden.publish doc).map fun e ↦ e.page.map (Page.veil p.settings.hide) := by
  intro scenario doc p
  let draft : Draft := ⟨none, [⟨"Open", "", ⟨3, 3⟩, ["@B1"], [], none, .scenario "Open"⟩]⟩
  have hu : p.unhidden.publish doc = .ok (p.unhidden.finish doc draft) := rfl
  have hnone : (p.publish doc).map Edition.page = .ok none := by
    have he : p.publish doc = .ok (p.finish doc (draft.veil p.settings.hide)) := rfl
    have hp : (p.finish doc (draft.veil p.settings.hide)).page = none := by decide +kernel
    rw [he, Except.map, hp]
  have hsome : ((p.unhidden.finish doc draft).page.map fun page ↦ page.sections.map Section.tags) =
      some [["@B1"]] := by decide +kernel
  obtain ⟨page, hp, ht⟩ := Option.map_eq_some_iff.mp hsome
  refine ⟨hnone, ⟨page, by rw [hu, Except.map, hp], ht⟩, ?_⟩
  rw [hnone, hu, Except.map, hp]
  exact fun h ↦ Option.some_ne_none _ (Except.ok.inj h).symm

end Publisher

end LivingDoc
