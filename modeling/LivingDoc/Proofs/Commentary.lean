import LivingDoc.Commentary
import LivingDoc.Proofs.Placement
import Mathlib.Data.List.Induction

namespace LivingDoc

theorem takeWhile_eq_filter {α : Type} {p : α → Bool} {l : List α}
    (h : l.Pairwise fun a b ↦ p b → p a) : l.takeWhile p = l.filter p := by
  induction l with
  | nil => rfl
  | cons a l ih =>
    obtain ⟨ha, hl⟩ := List.pairwise_cons.mp h
    by_cases hp : p a
    · rw [List.takeWhile_cons_of_pos hp, List.filter_cons_of_pos hp, ih hl]
    · rw [List.takeWhile_cons_of_neg hp, List.filter_cons_of_neg hp, eq_comm,
        List.filter_eq_nil_iff]
      exact fun b hb hpb ↦ hp (ha b hb hpb)

theorem filter_lt_succ {α : Type} {key : α → Nat} {l : List α}
    (h : l.Pairwise fun a b ↦ key a ≤ key b) (m : Nat) :
    l.filter (key · < m + 1) = l.filter (key · < m) ++ l.filter (key · = m) := by
  induction l with
  | nil => rfl
  | cons a l ih =>
    obtain ⟨ha, hl⟩ := List.pairwise_cons.mp h
    simp only [List.filter_cons, decide_eq_true_eq, ih hl]
    rcases Nat.lt_trichotomy (key a) m with hlt | heq | hgt
    · have hs : key a < m + 1 := Nat.lt_succ_of_lt hlt
      rw [if_pos hs, if_pos hlt, if_neg (Nat.ne_of_lt hlt), List.cons_append]
    · have hs : key a < m + 1 := by omega
      have hnl : ¬ key a < m := by omega
      have hnil : l.filter (key · < m) = [] := by
        apply List.filter_eq_nil_iff.mpr
        intro b hb
        have := ha b hb
        rw [decide_eq_true_eq]
        omega
      rw [if_pos hs, if_neg hnl, if_pos heq, hnil, List.nil_append, List.nil_append]
    · have hs : ¬ key a < m + 1 := by omega
      have hnl : ¬ key a < m := by omega
      rw [if_neg hs, if_neg hnl, if_neg (Nat.ne_of_gt hgt)]

theorem map_mapIdx {α β γ : Type} (f : Nat → α → β) (g : β → γ) (l : List α) :
    (l.mapIdx f).map g = l.mapIdx fun i a ↦ g (f i a) := by
  apply List.ext_getElem?
  intro i
  simp [Function.comp_def]

theorem flatten_mapIdx_filter {α β : Type} {key : α → Nat} {l : List α}
    (h : l.Pairwise fun a b ↦ key a ≤ key b) (m : List β) :
    (m.mapIdx fun j _ ↦ l.filter (key · = j)).flatten = l.filter (key · < m.length) := by
  induction m using List.reverseRecOn with
  | nil => simp
  | append_singleton m b ih =>
    rw [List.mapIdx_concat, List.flatten_append, ih, List.length_append, List.length_singleton,
      filter_lt_succ h, List.flatten_singleton]

namespace Commentary

variable {c : Commentary} {s : Section} {k : Nat}

/-- The remarks that lead to a section: those above the first one, or those below the last step of
the section before. -/
def before (c : Commentary) : Nat → List Remark
  | 0 => c.opening
  | k + 1 => (c.sections[k]?.map Section.trailing).getD []

theorem length_sources (c : Commentary) : c.sources.length = c.sections.length := by
  simp [sources]

theorem getElem?_sources (c : Commentary) (k : Nat) :
    c.sources[k]? = c.sections[k]?.map fun s ↦ c.before k ++ s.inner := by
  rw [sources, List.getElem?_zipWith]
  cases k with
  | zero => cases c.sections[0]? <;> rfl
  | succ k =>
    rw [List.getElem?_cons_succ, List.getElem?_map, before]
    cases hk : c.sections[k + 1]? with
    | none => simp
    | some s =>
      have hlt : k < c.sections.length := by
        have := (List.getElem?_eq_some_iff.mp hk).1
        omega
      simp [List.getElem?_eq_getElem hlt]

def attachedSection (c : Commentary) (k : Nat) (s : Section) : Section :=
  { s with steps := s.steps.mapIdx fun j t ↦
      { t with remarks := t.remarks ++ Placed.on c.placed k j } }

theorem getElem?_attached (c : Commentary) (k : Nat) :
    c.attached.sections[k]? = c.sections[k]?.map (c.attachedSection k) := by
  simp only [attached, Placed.attach, List.getElem?_mapIdx]
  rfl

theorem length_attached (c : Commentary) : c.attached.sections.length = c.sections.length := by
  simp [attached, Placed.attach]

/-- A commentary on which nothing has been done yet, its remarks in reading order. -/
structure Fresh (c : Commentary) : Prop where
  bare : ∀ s ∈ c.sections, ∀ t ∈ s.steps, t.remarks = []
  unattached : ∀ r ∈ c.remarks, r.role = .unattached
  sorted : c.remarks.Pairwise fun r s ↦ r.position.line ≤ s.position.line

/-- The role that a remark takes in a commentary. -/
def settled (c : Commentary) (r : Remark) : Remark := (Placed.find c.sections r).remark

theorem remarks_attached (c : Commentary) : c.attached.remarks = c.remarks.map c.settled := by
  rw [attached, placed, List.map_map]
  rfl

theorem on_placed (c : Commentary) (i j : Nat) : Placed.on c.placed i j =
    (c.remarks.filter fun r ↦
      (Site.locate c.sections r.position.line).isStep i j).map c.settled := by
  rw [Placed.on, placed, List.filter_map, List.map_map]
  rfl

theorem isStep_locate {r : Remark} {i j : Nat}
    (h : (Site.locate c.sections r.position.line).isStep i j) :
    Site.locate c.sections r.position.line = .step i j (c.settled r).role := by
  rw [settled, Placed.find]
  cases hs : Site.locate c.sections r.position.line with
  | step i' j' role =>
    obtain ⟨rfl, rfl⟩ : i = i' ∧ j = j' := by simpa [hs, Site.isStep] using h
    rfl
  | aboveSections | withoutStep => simp [hs, Site.isStep] at h

theorem filter_on_placed (c : Commentary) (i j : Nat) (role : Role) :
    (Placed.on c.placed i j).filter (·.role = role) =
      (c.remarks.filter fun r ↦ Site.locate c.sections r.position.line = .step i j role).map
        c.settled := by
  rw [on_placed, List.filter_map, List.filter_filter]
  congr 1
  apply List.filter_congr
  intro r _
  rw [Bool.eq_iff_iff, Bool.and_eq_true, Function.comp_apply, decide_eq_true_eq, decide_eq_true_eq]
  constructor
  · intro h
    obtain ⟨hr, hs⟩ := h
    rw [isStep_locate hs, hr]
  · intro h
    refine ⟨by simp [settled, Placed.find, h, Site.role?], by simp [h, Site.isStep]⟩

theorem filter_on_placed_ne (c : Commentary) (i j : Nat) :
    (Placed.on c.placed i j).filter (·.role ≠ .afterLastStep) =
      (Placed.on c.placed i j).filter (·.role = .beforeStep) := by
  apply List.filter_congr
  intro r hr
  rw [on_placed, List.mem_map] at hr
  obtain ⟨r, hr, rfl⟩ := hr
  have hs := isStep_locate (List.mem_filter.mp hr).2
  cases hrole : (c.settled r).role with
  | unattached => exact absurd (hrole ▸ hs) Site.locate_ne_unattached
  | beforeStep | afterLastStep => simp

section Ascending

variable (hf : c.Fresh) (hl : Span.Ascending (c.sections.map Section.span))
  (hs : c.sections[k]? = some s)
include hf hl hs

theorem inner_attached : (c.attachedSection k s).inner =
    (c.remarks.filter fun r ↦ s.span.holds r.position.line).map c.settled := by
  let key (r : Remark) : Nat := s.steps.findIdx (r.position.line < ·.position.line)
  have hkey : (c.remarks.filter fun r ↦ s.span.holds r.position.line).Pairwise
      fun q r ↦ key q ≤ key r := by
    refine (hf.sorted.imp fun hqr ↦ ?_).filter _
    apply List.findIdx_le_findIdx
    intro t _ ht
    exact decide_eq_true (Nat.lt_of_le_of_lt hqr (of_decide_eq_true ht))
  have hstep (j : Nat) (t : Step) (ht : t ∈ s.steps) :
      (t.remarks ++ Placed.on c.placed k j).filter (·.role ≠ .afterLastStep) =
        ((c.remarks.filter fun r ↦ s.span.holds r.position.line).filter (key · = j)).map
          c.settled := by
    rw [hf.bare s (List.mem_of_getElem? hs) t ht, List.nil_append, filter_on_placed_ne,
      filter_on_placed, List.filter_filter]
    congr 1
    apply List.filter_congr
    intro r _
    rw [Bool.eq_iff_iff, decide_eq_true_eq, Site.locate_eq_before hl hs, Bool.and_eq_true,
      decide_eq_true_eq, and_comm]
  have hall : ∀ r ∈ c.remarks.filter fun r ↦ s.span.holds r.position.line,
      key r < s.steps.length := by
    intro r hr
    obtain ⟨-, t, ht, hlt⟩ := Site.span_holds.mp (List.mem_filter.mp hr).2
    exact List.findIdx_lt_length.mpr ⟨t, List.mem_of_getLast? ht, decide_eq_true hlt⟩
  calc (c.attachedSection k s).inner
      = (s.steps.mapIdx fun j t ↦
          (t.remarks ++ Placed.on c.placed k j).filter (·.role ≠ .afterLastStep)).flatten := by
        rw [Section.inner, attachedSection, List.flatMap_def, map_mapIdx]
    _ = (s.steps.mapIdx fun j _ ↦ ((c.remarks.filter fun r ↦
          s.span.holds r.position.line).filter (key · = j)).map c.settled).flatten := by
        congr 1
        refine List.mapIdx_eq_mapIdx_iff.mpr fun j hj ↦ hstep j _ (List.getElem_mem hj)
    _ = (s.steps.mapIdx fun j _ ↦ (c.remarks.filter fun r ↦
          s.span.holds r.position.line).filter (key · = j)).flatten.map c.settled := by
        rw [List.map_flatten, map_mapIdx]
    _ = _ := by
        rw [flatten_mapIdx_filter hkey]
        congr 1
        exact List.filter_eq_self.mpr fun r hr ↦ decide_eq_true (hall r hr)

theorem trailing_attached {u : Section} (hu : c.sections[k + 1]? = some u)
    (hfree : ∀ r ∈ c.remarks, Span.Free (c.sections.map Section.span) r.position.line) :
    (c.attachedSection k s).trailing =
      (c.remarks.filter fun r ↦
        Span.leads (c.sections.map Section.span) (k + 1) r.position.line).map c.settled := by
  have hlead (line : Nat) : Span.leads (c.sections.map Section.span) (k + 1) line ↔
      ∃ t, s.steps.getLast? = some t ∧ t.position.line < line ∧ line < u.position.line := by
    simp only [Span.leads, List.getElem?_map, hs, hu, Section.span, Option.map_some,
      Option.any_some, List.getLast?_map, Option.any_map, Bool.and_eq_true, Option.any_eq_true,
      decide_eq_true_eq]
    constructor
    · intro h
      obtain ⟨⟨t, ht, hlt⟩, hlu⟩ := h
      exact ⟨t, ht, hlt, hlu⟩
    · intro h
      obtain ⟨t, ht, hlt, hlu⟩ := h
      exact ⟨⟨t, ht, hlt⟩, hlu⟩
  rw [Section.trailing, attachedSection, List.getLast?_mapIdx]
  cases ht : s.steps.getLast? with
  | none =>
    rw [eq_comm, Option.map_none, Option.map_none, Option.getD_none, List.map_eq_nil_iff,
      List.filter_eq_nil_iff]
    intro r _
    simp [hlead, ht]
  | some t =>
    rw [Option.map_some, Option.map_some, Option.getD_some]
    dsimp only
    rw [hf.bare s (List.mem_of_getElem? hs) t (List.mem_of_getLast? ht), List.nil_append,
      filter_on_placed]
    congr 1
    apply List.filter_congr
    intro r hr
    have hne := (hfree r hr _ (List.mem_map_of_mem (List.mem_of_getElem? hu))).1
    rw [Bool.eq_iff_iff, decide_eq_true_eq, Site.locate_eq_after hl hs hu hne, hlead]
    simp

end Ascending

theorem opening_attached (hf : c.Fresh) (hl : Span.Ascending (c.sections.map Section.span))
    (hs : c.sections[0]? = some s) :
    c.attached.opening = (c.remarks.filter fun r ↦
      Span.leads (c.sections.map Section.span) 0 r.position.line).map c.settled := by
  obtain ⟨l, hc⟩ : ∃ l, c.sections = s :: l := by
    cases h : c.sections <;> simp_all
  have hlead (line : Nat) : Span.leads (c.sections.map Section.span) 0 line ↔
      line < s.position.line := by
    simp [Span.leads, hs, Section.span]
  have hrole (r : Remark) (hr : r ∈ c.remarks) (hlt : r.position.line < s.position.line) :
      (c.settled r).role = .unattached := by
    have ho := (Site.owner_eq_none_of_head (hc ▸ hl)).mpr (Nat.le_of_lt hlt)
    have ha := Site.locate_eq_above.mpr ho
    simpa [settled, Placed.find, hc, ha, Site.role?] using hf.unattached r hr
  have hp : c.remarks.Pairwise fun q r ↦
      (decide ((c.settled r).role = .unattached) && decide (r.position.line < s.position.line)) →
        (decide ((c.settled q).role = .unattached) &&
          decide (q.position.line < s.position.line)) := by
    refine hf.sorted.imp_of_mem fun {q r} hq _ hqr h ↦ ?_
    simp only [Bool.and_eq_true, decide_eq_true_eq] at h ⊢
    have hlt : q.position.line < s.position.line := Nat.lt_of_le_of_lt hqr h.2
    exact ⟨hrole q hq hlt, hlt⟩
  have hopen : c.attached.opening = (c.remarks.map c.settled).takeWhile fun r ↦
      decide (r.role = .unattached) && decide (r.position.line < s.position.line) := by
    have hsec : c.attached.sections = c.attachedSection 0 s :: c.attached.sections.tail := by
      have h0 := getElem?_attached c 0
      rw [hs, Option.map_some] at h0
      cases ha : c.attached.sections <;> simp_all
    rw [opening, hsec, remarks_attached]
    rfl
  rw [hopen, List.takeWhile_map]
  congr 1
  refine (takeWhile_eq_filter hp).trans (List.filter_congr fun r hr ↦ ?_)
  rw [Bool.eq_iff_iff, hlead, Bool.and_eq_true, decide_eq_true_eq, decide_eq_true_eq]
  exact ⟨fun h ↦ h.2, fun h ↦ ⟨hrole r hr h, h⟩⟩

/-- A section takes the remarks in the gap that leads to it, and those between its header and its
last step. -/
theorem sources_attached (hf : c.Fresh) (hl : Span.Ascending (c.sections.map Section.span))
    (hfree : ∀ r ∈ c.remarks, Span.Free (c.sections.map Section.span) r.position.line)
    (hs : c.sections[k]? = some s) :
    c.attached.sources[k]? = some
      (((c.remarks.filter fun r ↦ Span.leads (c.sections.map Section.span) k r.position.line) ++
        c.remarks.filter fun r ↦ s.span.holds r.position.line).map c.settled) := by
  rw [getElem?_sources, getElem?_attached, hs, Option.map_some, Option.map_some,
    inner_attached hf hl hs, List.map_append]
  cases k with
  | zero => rw [before, opening_attached hf hl hs]
  | succ k =>
    obtain ⟨t, ht⟩ : ∃ t, c.sections[k]? = some t := by
      have hlt := (List.getElem?_eq_some_iff.mp hs).1
      exact ⟨_, List.getElem?_eq_getElem (Nat.lt_of_succ_lt hlt)⟩
    rw [before, getElem?_attached, ht, Option.map_some, Option.map_some, Option.getD_some,
      trailing_attached hf hl ht hs hfree]

end Commentary

end LivingDoc
