import LivingDoc.Proofs.Attribution
import Mathlib.Data.List.Flatten
import Mathlib.Data.List.Perm.Subperm

namespace LivingDoc

theorem filter_or_perm {α : Type} {p q : α → Bool} (h : ∀ a, p a → q a → False) (l : List α) :
    (l.filter fun a ↦ p a || q a).Perm (l.filter p ++ l.filter q) := by
  have hp : (l.filter fun a ↦ p a || q a).filter p = l.filter p := by
    rw [List.filter_filter]
    exact List.filter_congr fun a _ ↦ by cases p a <;> simp
  have hq : (l.filter fun a ↦ p a || q a).filter (fun a ↦ !p a) = l.filter q := by
    rw [List.filter_filter]
    refine List.filter_congr fun a _ ↦ ?_
    cases hpa : p a <;> cases hqa : q a <;> simp
    exact h a hpa hqa
  have := List.filter_append_perm p (l.filter fun a ↦ p a || q a)
  rw [hp, hq] at this
  exact this.symm

theorem flatten_mapIdx_filter_perm {α β : Type} {p : Nat → α → Bool}
    (h : ∀ a i j, p i a → p j a → i = j) (l : List α) (m : List β) :
    (m.mapIdx fun j _ ↦ l.filter (p j)).flatten.Perm
      (l.filter fun a ↦ (List.range m.length).any (p · a)) := by
  induction m using List.reverseRecOn with
  | nil => simp
  | append_singleton m b ih =>
    have hex : ∀ a, (List.range m.length).any (p · a) → p m.length a → False := by
      intro a hm ha
      obtain ⟨j, hj, hja⟩ := List.any_eq_true.mp hm
      have hlt := List.mem_range.mp hj
      have := h a j m.length hja ha
      omega
    rw [List.mapIdx_concat, List.flatten_append, List.flatten_singleton, List.length_append,
      List.length_singleton, List.range_succ]
    simp only [List.any_append, List.any_cons, List.any_nil, Bool.or_false]
    exact (ih.append_right _).trans (filter_or_perm hex l).symm

namespace Site

variable {l : List Section} {line i j : Nat} {r : Role}

def isIn (i : Nat) : Site → Bool
  | step i' _ _ => i = i'
  | aboveSections | withoutStep => false

theorem length_of_among {steps : List Step} (h : among steps line = .step i j r) :
    j < steps.length := by
  cases r with
  | unattached => exact absurd h among_ne_unattached
  | beforeStep => exact (List.findIdx?_eq_some_iff_findIdx_eq.mp (among_eq_before.mp h).2).1
  | afterLastStep =>
    obtain ⟨-, rfl, -, t, ht, -⟩ := among_eq_after.mp h
    have := List.length_pos_of_mem (List.mem_of_getLast? ht)
    omega

theorem bounds_of_locate (h : locate l line = .step i j r) :
    ∃ s, l[i]? = some s ∧ j < s.steps.length := by
  obtain ⟨-, s, hs, ha⟩ := locate_eq_step.mp h
  exact ⟨s, hs, length_of_among ha⟩

end Site

namespace Commentary

variable {c : Commentary}

theorem flatMap_attachedSection {k : Nat} {s : Section} (hs : c.sections[k]? = some s)
    (hb : ∀ t ∈ s.steps, t.remarks = []) :
    ((c.attachedSection k s).steps.flatMap Step.remarks).Perm
      ((c.placed.filter (·.site.isIn k)).map Placed.remark) := by
  have hdisj : ∀ (q : Placed) (i j : Nat), q.site.isStep k i → q.site.isStep k j → i = j := by
    intro q i j hi hj
    cases hq : q.site <;> simp_all [Site.isStep]
  have hsteps : (c.attachedSection k s).steps.flatMap Step.remarks =
      (s.steps.mapIdx fun j _ ↦ c.placed.filter (·.site.isStep k j)).flatten.map
        Placed.remark := by
    rw [attachedSection, List.flatMap_def, map_mapIdx, List.map_flatten, map_mapIdx]
    congr 1
    refine List.mapIdx_eq_mapIdx_iff.mpr fun j hj ↦ ?_
    rw [hb _ (List.getElem_mem hj), List.nil_append]
    rfl
  have hin : (c.placed.filter fun q ↦ (List.range s.steps.length).any (q.site.isStep k ·)) =
      c.placed.filter (·.site.isIn k) := by
    apply List.filter_congr
    intro q hq
    obtain ⟨r, -, rfl⟩ := List.mem_map.mp hq
    cases hl : (Placed.find c.sections r).site with
    | step i j role =>
      obtain ⟨t, ht, hj⟩ := Site.bounds_of_locate hl
      rw [Bool.eq_iff_iff, List.any_eq_true]
      simp only [Site.isStep, Site.isIn, Bool.and_eq_true, decide_eq_true_eq, List.mem_range]
      constructor
      · intro h
        obtain ⟨j', -, hk, -⟩ := h
        exact hk
      · rintro rfl
        obtain rfl : s = t := Option.some.inj (hs.symm.trans ht)
        exact ⟨j, hj, rfl, rfl⟩
    | aboveSections | withoutStep => simp [Site.isStep, Site.isIn]
  rw [hsteps, ← hin]
  exact (flatten_mapIdx_filter_perm hdisj c.placed s.steps).map _

theorem flatMap_attached (hb : ∀ s ∈ c.sections, ∀ t ∈ s.steps, t.remarks = [])
    (hu : ∀ r ∈ c.remarks, r.role = .unattached) :
    (c.attached.sections.flatMap fun s ↦ s.steps.flatMap Step.remarks).Perm
      (c.attached.remarks.filter (·.role ≠ .unattached)) := by
  have hdisj : ∀ (q : Placed) (i j : Nat), q.site.isIn i → q.site.isIn j → i = j := by
    intro q i j hi hj
    cases hq : q.site <;> simp_all [Site.isIn]
  have hsec : (c.attached.sections.flatMap fun s ↦ s.steps.flatMap Step.remarks).Perm
      ((c.sections.mapIdx fun k _ ↦ c.placed.filter (·.site.isIn k)).flatten.map
        Placed.remark) := by
    rw [List.map_flatten, map_mapIdx, List.flatMap_def]
    apply List.Perm.flatten_congr
    rw [attached, Placed.attach, map_mapIdx]
    refine List.forall₂_iff_get.mpr ⟨by simp, fun k hk hk' ↦ ?_⟩
    have hlt : k < c.sections.length := by simpa using hk
    have hs := List.getElem?_eq_getElem hlt
    simp only [List.get_eq_getElem, List.getElem_mapIdx]
    exact flatMap_attachedSection hs (hb _ (List.getElem_mem hlt))
  have hrole : c.attached.remarks.filter (·.role ≠ .unattached) =
      (c.placed.filter fun q ↦ (List.range c.sections.length).any (q.site.isIn ·)).map
        Placed.remark := by
    rw [attached, List.filter_map]
    congr 1
    apply List.filter_congr
    intro q hq
    obtain ⟨r, hr, rfl⟩ := List.mem_map.mp hq
    rw [Bool.eq_iff_iff, List.any_eq_true, Function.comp_apply, decide_eq_true_eq]
    cases hl : Site.locate c.sections r.position.line with
    | step i j role =>
      obtain ⟨s, hs, -⟩ := Site.bounds_of_locate hl
      have hne : role ≠ .unattached := fun h ↦ Site.locate_ne_unattached (h ▸ hl)
      have hi := (List.getElem?_eq_some_iff.mp hs).1
      simp [Placed.find, hl, Site.role?, Site.isIn, hne, hi]
    | aboveSections | withoutStep =>
      simp [Placed.find, hl, Site.role?, Site.isIn, hu r hr]
  rw [hrole]
  exact hsec.trans ((flatten_mapIdx_filter_perm hdisj c.placed c.sections).map _)

end Commentary

namespace Page

def attached (page : Page) : List Remark :=
  page.sections.flatMap fun s ↦ s.steps.flatMap Step.remarks

/-- How a page keeps the comments of a document with a given number of children. -/
structure Keeps (page : Page) (comments : List Gherkin.Comment) (children : Nat) : Prop where
  /-- None is lost and none is listed twice; each is listed without white space around it. -/
  all : (page.remarks.map fun r ↦ (r.text, r.position)).Perm
    (comments.map fun c ↦ (Text.trimmed c.text, c.position))
  sorted : page.remarks.Pairwise fun r s ↦ r.position.le s.position
  /-- Those at one place stay in the order of the document. -/
  stable : ∀ place, (page.remarks.filter (·.position = place)).map Remark.text =
    (comments.filter (·.position = place)).map fun c ↦ Text.trimmed c.text
  /-- The remarks on a step are remarks of the page, in its order, and not unattached ones. -/
  onSteps : ∀ s ∈ page.sections, ∀ t ∈ s.steps,
    t.remarks.Sublist (page.remarks.filter (·.role ≠ .unattached))
  background : ∀ s ∈ page.background, ∀ t ∈ s.steps, t.remarks = []
  /-- No remark is on two steps. -/
  once : page.attached.Subperm (page.remarks.filter (·.role ≠ .unattached))
  /-- If no child is left out then no attached remark is. -/
  whole : page.sections.length = children →
    page.attached.Perm (page.remarks.filter (·.role ≠ .unattached))

end Page

namespace Publisher

variable {p : Publisher} {doc : Gherkin.Document} {draft : Draft} {e : Edition} {page : Page}

theorem map_draft_bearers (h : (p.drafter doc.feature).feature doc.feature = .ok draft) :
    (p.bearers doc draft).map Bearer.draft = (p.commentary doc draft).attached.sections := by
  have hl := (forall₂_bearers h).length_eq
  have hs := (Drafter.forall₂_sections h).length_eq
  have ha := Commentary.length_attached (p.commentary doc draft)
  have hc : (p.commentary doc draft).sections = draft.sections := rfl
  rw [List.length_zipIdx] at hl
  apply List.ext_getElem
  · rw [List.length_map, ← hl, hs, ha, hc]
  · intro k hk hk'
    rw [List.length_map] at hk
    have hb := (getElem?_bearers.mp (List.getElem?_eq_getElem hk)).2.1
    rw [List.getElem?_eq_getElem hk', Option.some.injEq] at hb
    rw [List.getElem_map, hb]

section Retained

variable (hr : p.settings.remarks.retains) (hp : (p.finish doc draft).page = some page)
include hr hp

theorem remarks_page : page.remarks = (p.commentary doc draft).attached.remarks := by
  rw [page_eq_some hp, Publisher.page]
  exact if_pos hr

theorem remarks_page_eq_map : page.remarks =
    doc.inOrder.map fun c ↦ (p.commentary doc draft).settled (remarkOf c) := by
  rw [remarks_page hr hp, Commentary.remarks_attached,
    remarks_commentary (RemarkPolicy.collects_of_retains hr), List.map_map]
  rfl

theorem attached_page : page.attached =
    ((p.kept doc draft).map Bearer.draft).flatMap fun s ↦ s.steps.flatMap Step.remarks := by
  rw [page_eq_some hp, Page.attached, Publisher.page, List.flatMap_map, List.flatMap_map,
    List.flatMap_map]
  simp only [Entry.onPage, hr, if_true, entryOf]

theorem flatMap_attached_page (h : (p.drafter doc.feature).feature doc.feature = .ok draft) :
    ((p.commentary doc draft).attached.sections.flatMap fun s ↦ s.steps.flatMap Step.remarks).Perm
      (page.remarks.filter (·.role ≠ .unattached)) := by
  have hf := fresh_commentary (RemarkPolicy.collects_of_retains hr) h
  rw [remarks_page hr hp]
  exact Commentary.flatMap_attached hf.bare hf.unattached

end Retained

theorem on_placed_sublist (c : Commentary) (k j : Nat) : (Placed.on c.placed k j).Sublist
    (c.attached.remarks.filter (·.role ≠ .unattached)) := by
  have hs : Placed.on c.placed k j = (Placed.on c.placed k j).filter (·.role ≠ .unattached) := by
    refine (List.filter_eq_self.mpr fun r hr ↦ decide_eq_true ?_).symm
    rw [Commentary.on_placed, List.mem_map] at hr
    obtain ⟨r, hr, rfl⟩ := hr
    have hl := Commentary.isStep_locate (List.mem_filter.mp hr).2
    exact fun hu ↦ Site.locate_ne_unattached (hu ▸ hl)
  rw [hs]
  exact (List.filter_sublist.map Placed.remark).filter _

/-- A page that retains remarks keeps all comments of its document, each in its place on the list
and on at most one step, in the same role in both places. -/
theorem remarks_conserved (hr : p.settings.remarks.retains) (he : p.publish doc = .ok e)
    (hp : e.page = some page) : page.Keeps doc.comments doc.feature.children.length := by
  obtain ⟨draft, h, rfl⟩ := publish_eq_ok.mp he
  have hlist := remarks_page_eq_map hr hp
  have hperm := flatMap_attached_page hr hp h
  have hkept : ((p.kept doc draft).map Bearer.draft).Sublist
      (p.commentary doc draft).attached.sections := by
    rw [← map_draft_bearers h]
    exact List.filter_sublist.map _
  have hsub : page.attached.Sublist
      ((p.commentary doc draft).attached.sections.flatMap fun s ↦
        s.steps.flatMap Step.remarks) := by
    rw [attached_page hr hp]
    exact hkept.flatMap _
  constructor
  case all =>
    rw [hlist, List.map_map]
    exact (List.mergeSort_perm _ _).map _
  case sorted =>
    rw [hlist, List.pairwise_map]
    exact doc.pairwise_inOrder
  case stable =>
    intro place
    rw [hlist, List.filter_map, List.map_map, ← filter_mergeSort_place Gherkin.Comment.position]
    rfl
  case onSteps =>
    have hshow := forall₂_shows h hp
    refine forall_right hshow fun ck s hs t ht ↦ ?_
    obtain ⟨s, -, -, rfl⟩ := hs
    obtain ⟨j, hj, rfl⟩ := List.mem_mapIdx.mp ht
    rw [remarks_page hr hp, hr]
    exact on_placed_sublist _ ck.2 j
  case background =>
    rw [page_eq_some hp]
    intro s hs
    obtain ⟨b, hb, rfl⟩ := Option.map_eq_some_iff.mp hs
    exact Drafter.bare_background h b hb
  case once => exact hsub.subperm.trans hperm.subperm
  case whole =>
    intro hlen
    have hsec : page.sections.length = (p.kept doc draft).length := by
      rw [page_eq_some hp, Publisher.page, List.length_map, List.length_map]
    have hall : (p.kept doc draft).map Bearer.draft =
        (p.commentary doc draft).attached.sections := by
      apply hkept.eq_of_length
      rw [List.length_map, ← hsec, hlen, Commentary.length_attached]
      exact (Drafter.forall₂_sections h).length_eq
    rw [attached_page hr hp, hall]
    exact hperm

theorem remarks_conserved_excluded :
    let first : Gherkin.Scenario :=
      ⟨"Open", none, [], [⟨"Given ", "a door", none, ⟨5, 5⟩⟩, ⟨"Given ", "a key", none, ⟨7, 5⟩⟩],
        ⟨3, 3⟩⟩
    let second : Gherkin.Scenario :=
      ⟨"Shut", none, ["@old"], [⟨"Given ", "a door", none, ⟨11, 5⟩⟩], ⟨10, 3⟩⟩
    let doc : Gherkin.Document :=
      ⟨⟨"Doors", none, [], none, none, [.scenario first, .scenario second], ⟨1, 1⟩⟩,
        [⟨"# last ", ⟨12, 3⟩⟩, ⟨"# between", ⟨6, 3⟩⟩, ⟨"# again", ⟨6, 3⟩⟩, ⟨"# above", ⟨2, 3⟩⟩]⟩
    let p : Publisher :=
      ⟨⟨.empty, ⟨["old"]⟩, ⟨false, true⟩, .info⟩, some ⟨["Given"], [], [], [], []⟩, id⟩
    ∃ e page, p.publish doc = .ok e ∧ e.page = some page ∧
      page.remarks = [⟨"# above", ⟨2, 3⟩, .unattached⟩, ⟨"# between", ⟨6, 3⟩, .beforeStep⟩,
        ⟨"# again", ⟨6, 3⟩, .beforeStep⟩, ⟨"# last", ⟨12, 3⟩, .afterLastStep⟩] ∧
      page.attached = [⟨"# between", ⟨6, 3⟩, .beforeStep⟩, ⟨"# again", ⟨6, 3⟩, .beforeStep⟩] ∧
      page.Keeps doc.comments 2 := by
  intro first second doc p
  let draft : Draft :=
    ⟨none, [⟨"Open", "", ⟨3, 3⟩, [], [⟨⟨5, 5⟩, .context, "Given ", "a door", none, []⟩,
        ⟨⟨7, 5⟩, .context, "Given ", "a key", none, []⟩], none, .scenario "Open"⟩,
      ⟨"Shut", "", ⟨10, 3⟩, ["@old"], [⟨⟨11, 5⟩, .context, "Given ", "a door", none, []⟩], none,
        .scenario "Shut"⟩]⟩
  have he : p.publish doc = .ok (p.finish doc draft) := rfl
  have hr : remarksOf doc.comments =
      [⟨"# above", ⟨2, 3⟩, .unattached⟩, ⟨"# between", ⟨6, 3⟩, .unattached⟩,
        ⟨"# again", ⟨6, 3⟩, .unattached⟩, ⟨"# last", ⟨12, 3⟩, .unattached⟩] := by
    simp [doc, remarksOf, List.mergeSort, List.MergeSort.Internal.splitInTwo, Position.le]
    decide +kernel
  have hsome : ((p.finish doc draft).page.map fun page ↦ (page.remarks, page.attached)) =
      some ([⟨"# above", ⟨2, 3⟩, .unattached⟩, ⟨"# between", ⟨6, 3⟩, .beforeStep⟩,
          ⟨"# again", ⟨6, 3⟩, .beforeStep⟩, ⟨"# last", ⟨12, 3⟩, .afterLastStep⟩],
        [⟨"# between", ⟨6, 3⟩, .beforeStep⟩, ⟨"# again", ⟨6, 3⟩, .beforeStep⟩]) := by
    have hc : p.commentary doc draft = ⟨draft.sections, remarksOf doc.comments⟩ := rfl
    rw [finish, hc, hr]
    decide +kernel
  obtain ⟨page, hp, ht⟩ := Option.map_eq_some_iff.mp hsome
  obtain ⟨hl, ha⟩ := Prod.mk.inj ht
  exact ⟨_, page, he, hp, hl, ha, remarks_conserved rfl he hp⟩

end Publisher

end LivingDoc
