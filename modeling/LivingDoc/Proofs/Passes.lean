import LivingDoc.Proofs.Commentary
import LivingDoc.Proofs.Tagging
import Mathlib.Data.Set.Basic

namespace LivingDoc

namespace Tagging

variable {hide : TagFilter} {tags : List String} {l m : List Remark} {tag story : String}

theorem mem_former_read (hs : Citation.IsStory story) :
    "@B" ++ story ∈ ((start tags).read hide l).tags ↔ "@B" ++ story ∈ tags := by
  have hc := (took_read hide tags l).contains_former (fun _ ht ↦ isTag_of_mem_offers ht) hs
  rw [← List.contains_iff_mem, hc, List.contains_iff_mem]

theorem mem_offers_read (h : ∀ r, r ∈ m ↔ r ∈ l) :
    tag ∈ offers ((start tags).read hide l).tags m ↔ tag ∈ offers tags l := by
  rw [mem_offers, mem_offers]
  simp only [h]
  refine or_congr Iff.rfl (exists_congr fun story ↦ and_congr_right fun hr ↦ ?_)
  obtain ⟨r, -, hs⟩ := hr
  rw [mem_former_read (Citation.isStory_of_ofText hs)]

theorem read_again (h : ∀ r, r ∈ m ↔ r ∈ l) :
    ((start ((start tags).read hide l).tags).read hide m).tags =
        ((start tags).read hide l).tags ∧
      ∀ tag, tag ∈ ((start ((start tags).read hide l).tags).read hide m).hidden ↔
        tag ∈ ((start tags).read hide l).hidden := by
  have hl := took_read hide tags l
  have hm := took_read hide ((start tags).read hide l).tags m
  constructor
  · rw [hm.tags_eq, List.append_right_eq_self, List.eq_nil_iff_forall_not_mem]
    intro tag ht
    obtain ⟨ho, hh, hn⟩ := mem_added.mp ht
    rw [mem_offers_read h] at ho
    rw [hl.tags_eq, List.mem_append, mem_added] at hn
    exact hn (.inr ⟨ho, hh, fun hb ↦ hn (.inl hb)⟩)
  · intro tag
    rw [hm.hidden_eq, hl.hidden_eq, List.mem_filter, List.mem_filter, mem_offers_read h]

end Tagging

namespace Site

theorem among_congr {steps steps' : List Step}
    (h : steps.map (·.position.line) = steps'.map (·.position.line)) (line : Nat) :
    among steps line = among steps' line := by
  have hf := congrArg (List.findIdx? (line < ·)) h
  have hg := congrArg List.getLast? h
  have hl := congrArg List.length h
  rw [List.findIdx?_map, List.findIdx?_map] at hf
  rw [List.getLast?_map, List.getLast?_map] at hg
  rw [List.length_map, List.length_map] at hl
  simp only [Function.comp_def] at hf
  rw [among, among, hf, hl]
  cases hs : steps.getLast? <;> cases hs' : steps'.getLast? <;> simp_all

theorem locate_congr {l m : List Section} (h : l.map Section.span = m.map Section.span)
    (line : Nat) : locate l line = locate m line := by
  induction l generalizing m with
  | nil => rw [List.map_eq_nil_iff.mp h.symm]
  | cons s l ih =>
    cases m with
    | nil => cases h
    | cons t m =>
      obtain ⟨hst, hlm⟩ := List.cons.inj h
      obtain ⟨hheader, hsteps⟩ := Span.mk.inj hst
      rw [locate, locate, ih hlm, hheader, among_congr hsteps]

end Site

def Step.view (t : Step) : Nat × Set Remark := (t.position.line, {r | r ∈ t.remarks})

namespace Section

variable (s : Section) (r : Remark)

def view : Nat × List (Nat × Set Remark) := (s.position.line, s.steps.map Step.view)

theorem mem_inner :
    r ∈ s.inner ↔ (∃ t ∈ s.view.2, r ∈ t.2) ∧ r.role ≠ .afterLastStep := by
  simp [inner, view, Step.view, ← and_assoc]

theorem mem_trailing :
    r ∈ s.trailing ↔ (∃ t ∈ s.view.2.getLast?, r ∈ t.2) ∧ r.role = .afterLastStep := by
  rw [trailing, view, List.getLast?_map]
  cases s.steps.getLast? <;> simp [Step.view]

end Section

namespace Commentary

variable {hide : TagFilter} {c d : Commentary}

/-- What passes look at in a commentary, the tags of its sections aside. -/
def view (c : Commentary) : List Remark × List (Nat × List (Nat × Set Remark)) :=
  (c.remarks, c.sections.map Section.view)

theorem spans_eq (c : Commentary) : c.sections.map Section.span =
    c.view.2.map fun s ↦ ⟨s.1, s.2.map Prod.fst⟩ := by
  rw [view, List.map_map]
  apply List.map_congr_left
  intro s _
  rw [Section.span, Function.comp_apply, Section.view, List.map_map]
  rfl

theorem placed_congr (h : c.view = d.view) : c.placed = d.placed := by
  have hr : c.remarks = d.remarks := congrArg Prod.fst h
  have hs : c.sections.map Section.span = d.sections.map Section.span := by
    rw [spans_eq, spans_eq, h]
  rw [placed, placed, hr]
  apply List.map_congr_left
  intro r _
  rw [Placed.find, Placed.find, Site.locate_congr hs]

theorem spans_attached (c : Commentary) :
    c.attached.sections.map Section.span = c.sections.map Section.span := by
  apply List.ext_getElem?
  intro k
  rw [List.getElem?_map, getElem?_attached, Option.map_map, List.getElem?_map]
  congr 1
  funext s
  rw [Function.comp_apply, Section.span, attachedSection, map_mapIdx, Section.span]
  congr 1
  apply List.ext_getElem?
  intro j
  rw [List.getElem?_mapIdx, List.getElem?_map]

theorem placed_attached (c : Commentary) : c.attached.placed = c.placed := by
  have hl (line : Nat) := Site.locate_congr c.spans_attached line
  have hf (r : Remark) :
      Placed.find c.attached.sections (c.settled r) = Placed.find c.sections r := by
    rw [settled, Placed.find, Placed.find, hl]
    cases Site.locate c.sections r.position.line <;> rfl
  rw [placed, remarks_attached, List.map_map, placed]
  exact List.map_congr_left fun r _ ↦ hf r

theorem view_attachedSection (c : Commentary) (k : Nat) (s : Section) :
    (c.attachedSection k s).view = (s.view.1,
      s.view.2.mapIdx fun j t ↦ (t.1, t.2 ∪ {r | r ∈ Placed.on c.placed k j})) := by
  rw [attachedSection, Section.view, map_mapIdx]
  refine congrArg (Prod.mk s.position.line) (List.ext_getElem? fun j ↦ ?_)
  rw [Section.view, List.getElem?_mapIdx, List.getElem?_mapIdx, List.getElem?_map, Option.map_map]
  congr 1
  funext t
  rw [Function.comp_apply, Step.view, Step.view]
  refine congrArg (Prod.mk t.position.line) (Set.ext fun r ↦ ?_)
  exact List.mem_append

theorem view_attached (c : Commentary) : c.attached.view =
    (c.placed.map Placed.remark, c.view.2.mapIdx fun k s ↦
      (s.1, s.2.mapIdx fun j t ↦ (t.1, t.2 ∪ {r | r ∈ Placed.on c.placed k j}))) := by
  refine congrArg (Prod.mk (c.placed.map Placed.remark)) (List.ext_getElem? fun k ↦ ?_)
  rw [List.getElem?_map, getElem?_attached, List.getElem?_mapIdx, view, List.getElem?_map,
    Option.map_map, Option.map_map]
  congr 1
  funext s
  exact c.view_attachedSection k s

theorem view_attached_congr (h : c.view = d.view) : c.attached.view = d.attached.view := by
  rw [view_attached, view_attached, placed_congr h, h]

theorem view_attached_attached (c : Commentary) : c.attached.attached.view = c.attached.view := by
  rw [view_attached, placed_attached, view_attached, List.mapIdx_mapIdx]
  simp only [Function.comp_def, List.mapIdx_mapIdx, Set.union_assoc, Set.union_self]

theorem getElem?_taggings (c : Commentary) (hide : TagFilter) (k : Nat) :
    (c.taggings hide)[k]? =
      c.sections[k]?.map fun s ↦ (Tagging.start s.tags).read hide (c.before k ++ s.inner) := by
  rw [taggings, List.getElem?_zipWith, getElem?_sources]
  cases c.sections[k]? <;> rfl

theorem getElem?_tagged (c : Commentary) (hide : TagFilter) (k : Nat) :
    (c.tagged hide).sections[k]? = c.sections[k]?.map fun s ↦
      { s with tags := ((Tagging.start s.tags).read hide (c.before k ++ s.inner)).tags } := by
  rw [tagged, List.getElem?_zipWith, getElem?_taggings]
  cases c.sections[k]? <;> rfl

theorem view_tagged (hide : TagFilter) (c : Commentary) : (c.tagged hide).view = c.view := by
  refine congrArg (Prod.mk c.remarks) (List.ext_getElem? fun k ↦ ?_)
  rw [List.getElem?_map, getElem?_tagged, List.getElem?_map, Option.map_map]
  rfl

theorem tags_tagged (hide : TagFilter) (c : Commentary) :
    (c.tagged hide).sections.map Section.tags = (c.taggings hide).map Tagging.tags := by
  apply List.ext_getElem?
  intro k
  rw [List.getElem?_map, getElem?_tagged, List.getElem?_map, getElem?_taggings, Option.map_map,
    Option.map_map]
  rfl

theorem opening_congr (h : c.view = d.view) : c.opening = d.opening := by
  have hr : c.remarks = d.remarks := congrArg Prod.fst h
  have hs : c.sections.map Section.view = d.sections.map Section.view := congrArg Prod.snd h
  rw [opening, opening, hr]
  cases hc : c.sections with
  | nil =>
    rw [hc, List.map_nil, eq_comm, List.map_eq_nil_iff] at hs
    rw [hs]
  | cons s l =>
    cases hd : d.sections with
    | nil => simp [hc, hd] at hs
    | cons t m =>
      rw [hc, hd, List.map_cons, List.map_cons, List.cons.injEq] at hs
      have hline : s.position.line = t.position.line := congrArg Prod.fst hs.1
      simp only [hline]

theorem mem_before_congr (h : c.view = d.view) (k : Nat) (r : Remark) :
    r ∈ c.before k ↔ r ∈ d.before k := by
  cases k with
  | zero => rw [before, before, opening_congr h]
  | succ k =>
    have hs : c.sections[k]?.map Section.view = d.sections[k]?.map Section.view := by
      rw [← List.getElem?_map, ← List.getElem?_map]
      exact congrArg (·[k]?) (congrArg Prod.snd h)
    rw [before, before]
    cases hc : c.sections[k]? with
    | none =>
      rw [hc, Option.map_none, eq_comm, Option.map_eq_none_iff] at hs
      rw [hs]
    | some s =>
      rw [hc, Option.map_some, eq_comm, Option.map_eq_some_iff] at hs
      obtain ⟨t, ht, hv⟩ := hs
      rw [ht, Option.map_some, Option.map_some, Option.getD_some, Option.getD_some,
        Section.mem_trailing, Section.mem_trailing, hv]

theorem length_taggings (c : Commentary) (hide : TagFilter) :
    (c.taggings hide).length = c.sections.length := by
  simp [taggings, length_sources]

/-- What passes keep of a commentary: its remarks, what stands on which step, and the tags that the
sections have once they were tagged. -/
structure Settled (hide : TagFilter) (c d : Commentary) : Prop where
  view : d.view = c.view
  tags : d.sections.map Section.tags = (c.taggings hide).map Tagging.tags

/-- What a section of a settled commentary takes its tags from. -/
theorem Settled.exists_section {k : Nat} {t : Section} (h : Settled hide c d)
    (ht : d.sections[k]? = some t) : ∃ s, c.sections[k]? = some s ∧
      t.tags = ((Tagging.start s.tags).read hide (c.before k ++ s.inner)).tags ∧
      ∀ r, r ∈ d.before k ++ t.inner ↔ r ∈ c.before k ++ s.inner := by
  have hview := congrArg (·[k]?) (congrArg Prod.snd h.view)
  have htags := congrArg (·[k]?) h.tags
  simp only [Commentary.view, List.getElem?_map, ht, getElem?_taggings, Option.map_some,
    Option.map_map] at hview htags
  obtain ⟨s, hs, hv⟩ := Option.map_eq_some_iff.mp hview.symm
  rw [hs, Option.map_some, Option.some_inj] at htags
  refine ⟨s, hs, htags, fun r ↦ ?_⟩
  rw [List.mem_append, List.mem_append, mem_before_congr h.view, Section.mem_inner,
    Section.mem_inner, hv]

theorem Settled.taggings (h : Settled hide c d) :
    List.Forall₂ (fun t u ↦ u.tags = t.tags ∧ ∀ tag, tag ∈ u.hidden ↔ tag ∈ t.hidden)
      (c.taggings hide) (d.taggings hide) := by
  have hlen : (c.taggings hide).length = d.sections.length := by
    simpa using (congrArg List.length h.tags).symm
  refine List.forall₂_iff_get.mpr ⟨hlen.trans (length_taggings d hide).symm, fun k hk hk' ↦ ?_⟩
  obtain ⟨s, hs, htags, hmem⟩ := h.exists_section (List.getElem?_eq_getElem (hlen ▸ hk))
  have ht := getElem?_taggings c hide k
  have hu := getElem?_taggings d hide k
  rw [hs, List.getElem?_eq_getElem hk, Option.map_some, Option.some_inj] at ht
  rw [List.getElem?_eq_getElem hk', List.getElem?_eq_getElem (hlen ▸ hk), Option.map_some,
    Option.some_inj, htags] at hu
  rw [List.get_eq_getElem, List.get_eq_getElem, ht, hu]
  exact Tagging.read_again hmem

theorem settled_tagged (hide : TagFilter) (c : Commentary) : Settled hide c (c.tagged hide) :=
  ⟨view_tagged hide c, tags_tagged hide c⟩

theorem Settled.attached (h : Settled hide c d) (hc : c.attached.view = c.view) :
    Settled hide c d.attached where
  view := (view_attached_congr h.view).trans hc
  tags := by
    rw [← h.tags]
    apply List.ext_getElem?
    intro k
    rw [List.getElem?_map, getElem?_attached, Option.map_map, List.getElem?_map]
    rfl

theorem Settled.tagged (h : Settled hide c d) : Settled hide c (d.tagged hide) where
  view := (view_tagged hide d).trans h.view
  tags := by
    rw [tags_tagged, eq_comm, ← List.forall₂_eq_eq_eq, List.forall₂_map_left_iff,
      List.forall₂_map_right_iff]
    exact h.taggings.imp fun t u htu ↦ htu.1.symm

/-- What can be done to a commentary. -/
inductive Pass where
  | attach
  | tag

def after (hide : TagFilter) : Commentary → List Pass → Commentary
  | c, [] => c
  | c, .attach :: l => c.attached.after hide l
  | c, .tag :: l => (c.tagged hide).after hide l

theorem Settled.after (h : Settled hide c d) (hc : c.attached.view = c.view) (l : List Pass) :
    Settled hide c (d.after hide l) := by
  induction l generalizing d with
  | nil => exact h
  | cons pass l ih =>
    cases pass with
    | attach => exact ih (h.attached hc)
    | tag => exact ih h.tagged

/-- Once remarks have been attached and tags have been taken from them, no pass changes a remark or
the tags of a section, and the tags that are kept off a section stay the same. -/
theorem after_stable (hide : TagFilter) (c : Commentary) (l : List Pass) :
    ((c.attached.tagged hide).after hide l).remarks = (c.attached.tagged hide).remarks ∧
      ((c.attached.tagged hide).after hide l).sections.map Section.tags =
        (c.attached.tagged hide).sections.map Section.tags ∧
      List.Forall₂ (fun t u ↦ ∀ tag, tag ∈ u.hidden ↔ tag ∈ t.hidden) (c.attached.taggings hide)
        (((c.attached.tagged hide).after hide l).taggings hide) := by
  have h := (settled_tagged hide c.attached).after (view_attached_attached c) l
  refine ⟨congrArg Prod.fst h.view, ?_, h.taggings.imp fun t u htu ↦ htu.2⟩
  rw [h.tags, tags_tagged]

end Commentary

end LivingDoc
