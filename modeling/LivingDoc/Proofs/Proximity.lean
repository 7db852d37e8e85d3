import LivingDoc.Proofs.Commentary
import Mathlib.Data.List.Forall2

namespace LivingDoc

namespace Site

def address? : Site → Option (Nat × Nat)
  | step i j _ => some (i, j)
  | aboveSections | withoutStep => none

/-- Of all steps, that with number `j` of section `i` is the nearest one below a line, and the
section begins above the line. -/
def Precedes (l : List Section) (line i j : Nat) : Prop :=
  ∃ s t, l[i]? = some s ∧ s.steps[j]? = some t ∧ s.position.line < line ∧ line < t.position.line ∧
    ∀ u ∈ l.flatMap Section.steps, line < u.position.line → t.position.line ≤ u.position.line

/-- Of all steps, that with number `j` of section `i` is the nearest one above a line, and no
section begins in between. -/
def Trails (l : List Section) (line i j : Nat) : Prop :=
  ∃ s t, l[i]? = some s ∧ s.steps[j]? = some t ∧ t.position.line < line ∧
    (∀ u ∈ l.flatMap Section.steps, u.position.line < line →
      u.position.line ≤ t.position.line) ∧
    ∀ u ∈ l, ¬ (t.position.line < u.position.line ∧ u.position.line < line)

/-- The role and the step of a remark on a line, told from the lines around it: it belongs to the
step below it, or else to the step above it, or else to none. -/
structure Nearest (l : List Section) (line : Nat) (role : Role) (address : Option (Nat × Nat)) :
    Prop where
  before_iff : ∀ i j, role = .beforeStep ∧ address = some (i, j) ↔ Precedes l line i j
  after_iff : ∀ i j, role = .afterLastStep ∧ address = some (i, j) ↔
    (¬ ∃ i j, Precedes l line i j) ∧ Trails l line i j
  apart_iff : role = .unattached ∧ address = none ↔
    (¬ ∃ i j, Precedes l line i j) ∧ ¬ ∃ i j, Trails l line i j

variable {l : List Section} {s : Section} {t u : Step} {line i j k : Nat}

theorem isStep_iff {site : Site} : site.isStep i j ↔ site.address? = some (i, j) := by
  cases site with
  | step i' j' r =>
    rw [isStep, address?, Bool.and_eq_true, decide_eq_true_eq, decide_eq_true_eq, Option.some_inj,
      Prod.mk.injEq, eq_comm, eq_comm (a := j)]
  | aboveSections | withoutStep => simp [isStep, address?]

section Ascending

variable (hl : Span.Ascending (l.map Section.span))
include hl

theorem header_lt (hs : s ∈ l) (ht : t ∈ s.steps) : s.position.line < t.position.line :=
  hl.below _ (List.mem_map_of_mem hs) _ (List.mem_map_of_mem ht)

theorem steps_lt (hs : s ∈ l) (ht : s.steps[j]? = some t) (hu : s.steps[k]? = some u)
    (hjk : j < k) : t.position.line < u.position.line := by
  have hp := List.pairwise_map.mp (hl.steps _ (List.mem_map_of_mem hs))
  obtain ⟨hj, rfl⟩ := List.getElem?_eq_some_iff.mp ht
  obtain ⟨hk, rfl⟩ := List.getElem?_eq_some_iff.mp hu
  exact List.pairwise_iff_getElem.mp hp j k hj hk hjk

theorem owner_of_step (hs : l[i]? = some s) (ht : t ∈ s.steps) (hlt : s.position.line < line)
    (h : ∀ k u, i < k → l[k]? = some u → t.position.line < u.position.line →
      line ≤ u.position.line) : owner l line = some i :=
  owner_eq_some.mpr ⟨⟨s, hs, hlt⟩, fun k u hk hu ↦ h k u hk hu (le_later_header hl hs ht hu hk)⟩

/-- Where a line belongs to a section, the steps of earlier sections stand above that section, and
the steps of later ones stand below the line and below all steps of that section. -/
theorem steps_of_owner (ho : owner l line = some i) (hs : l[i]? = some s)
    (hu : u ∈ l.flatMap Section.steps) :
    u ∈ s.steps ∨ u.position.line < s.position.line ∨
      line < u.position.line ∧ ∀ t ∈ s.steps, t.position.line < u.position.line := by
  obtain ⟨v, hv, hu⟩ := List.mem_flatMap.mp hu
  obtain ⟨k, hk⟩ := List.mem_iff_getElem?.mp hv
  rcases Nat.lt_trichotomy k i with hki | rfl | hik
  · exact .inr (.inl (le_later_header hl hk hu hs hki))
  · obtain rfl : s = v := Option.some.inj (hs.symm.trans hk)
    exact .inl hu
  · have hheader := header_lt hl hv hu
    have hline := (owner_eq_some.mp ho).2 k _ hik hk
    refine .inr (.inr ⟨by omega, fun t ht ↦ ?_⟩)
    have := le_later_header hl hs ht hk hik
    omega

theorem precedes_of_locate (h : locate l line = .step i j .beforeStep) : Precedes l line i j := by
  obtain ⟨ho, s, hs, ha⟩ := locate_eq_step.mp h
  obtain ⟨hj, hlt, hmin⟩ := List.findIdx?_eq_some_iff_getElem.mp (among_eq_before.mp ha).2
  have ht := List.getElem?_eq_getElem hj
  have hheader := header_lt_of_owner ho hs
  refine ⟨s, _, hs, ht, hheader, of_decide_eq_true hlt, fun u hu hlu ↦ ?_⟩
  rcases steps_of_owner hl ho hs hu with hu | hu | ⟨-, hu⟩
  · obtain ⟨m, hm⟩ := List.mem_iff_getElem?.mp hu
    rcases Nat.lt_trichotomy m j with hmj | rfl | hmj
    · obtain ⟨hml, rfl⟩ := List.getElem?_eq_some_iff.mp hm
      exact absurd (decide_eq_true hlu) (hmin m hmj)
    · obtain rfl := Option.some.inj (ht.symm.trans hm)
      exact Nat.le_refl _
    · exact Nat.le_of_lt (steps_lt hl (List.mem_of_getElem? hs) ht hm hmj)
  · omega
  · exact Nat.le_of_lt (hu _ (List.mem_of_getElem? ht))

theorem locate_of_precedes (h : Precedes l line i j) :
    locate l line = .step i j .beforeStep := by
  obtain ⟨s, t, hs, ht, hlt, hlu, hmin⟩ := h
  have hsm := List.mem_of_getElem? hs
  have ho := owner_of_step hl hs (List.mem_of_getElem? ht) hlt fun k u _ _ hu ↦ by omega
  refine locate_eq_step.mpr ⟨ho, s, hs, among_eq_before.mpr ⟨rfl, ?_⟩⟩
  obtain ⟨hj, rfl⟩ := List.getElem?_eq_some_iff.mp ht
  refine List.findIdx?_eq_some_iff_getElem.mpr ⟨hj, decide_eq_true hlu, fun m hm hlm ↦ ?_⟩
  have hmj := steps_lt hl hsm (List.getElem?_eq_getElem (by omega)) ht hm
  have hle := hmin _ (List.mem_flatMap.mpr ⟨s, hsm, List.getElem_mem _⟩) (of_decide_eq_true hlm)
  omega

theorem locate_eq_before_iff : locate l line = .step i j .beforeStep ↔ Precedes l line i j :=
  ⟨precedes_of_locate hl, locate_of_precedes hl⟩

theorem trails_of_locate (h : locate l line = .step i j .afterLastStep) : Trails l line i j := by
  obtain ⟨ho, s, hs, ha⟩ := locate_eq_step.mp h
  obtain ⟨-, rfl, -, t, ht, hlt⟩ := among_eq_after.mp ha
  have hheader := header_lt hl (List.mem_of_getElem? hs) (List.mem_of_getLast? ht)
  refine ⟨s, t, hs, by rw [← ht, List.getLast?_eq_getElem?], hlt, fun u hu hlu ↦ ?_,
    fun u hu hbetween ↦ ?_⟩
  · rcases steps_of_owner hl ho hs hu with hu | hu | ⟨hu, -⟩
    · exact le_last_step hl hs ht hu
    · omega
    · omega
  · obtain ⟨k, hk⟩ := List.mem_iff_getElem?.mp hu
    rcases Nat.lt_or_ge i k with hik | hki
    · have := (owner_eq_some.mp ho).2 k u hik hk
      omega
    · have := header_le hl hk hs hki
      omega

theorem locate_of_trails (hf : ∀ s ∈ l, ∀ t ∈ s.steps, t.position.line ≠ line)
    (hn : ¬ ∃ i j, Precedes l line i j) (h : Trails l line i j) :
    locate l line = .step i j .afterLastStep := by
  obtain ⟨s, t, hs, ht, hlt, hmax, hbetween⟩ := h
  have htm := List.mem_of_getElem? ht
  have hsm := List.mem_of_getElem? hs
  have hheader := header_lt hl hsm htm
  have ho : owner l line = some i := owner_of_step hl hs htm (by omega) fun k u _ hu htu ↦ by
    have := hbetween u (List.mem_of_getElem? hu)
    omega
  have hnone : s.steps.findIdx? (line < ·.position.line) = none := by
    cases hm : s.steps.findIdx? (line < ·.position.line) with
    | none => rfl
    | some m =>
      have hb := locate_eq_step.mpr ⟨ho, s, hs, among_eq_before.mpr ⟨rfl, hm⟩⟩
      exact absurd ⟨i, m, (locate_eq_before_iff hl).mp hb⟩ hn
  obtain ⟨u, hu⟩ : ∃ u, s.steps.getLast? = some u :=
    ⟨_, List.getLast?_eq_some_getLast (List.ne_nil_of_mem htm)⟩
  have hum := List.mem_of_getLast? hu
  have hlu : u.position.line < line := by
    have h₁ := of_decide_eq_false (List.findIdx?_eq_none_iff.mp hnone u hum)
    have h₂ := hf s hsm u hum
    omega
  have hj : j = s.steps.length - 1 := by
    have hle := hmax u (List.mem_flatMap.mpr ⟨s, hsm, hum⟩) hlu
    have hjl := (List.getElem?_eq_some_iff.mp ht).1
    by_contra hne
    rw [List.getLast?_eq_getElem?] at hu
    have := steps_lt hl hsm ht hu (by omega)
    omega
  exact locate_eq_step.mpr ⟨ho, s, hs, among_eq_after.mpr ⟨rfl, hj, hnone, u, hu, hlu⟩⟩

theorem locate_eq_after_iff (hf : ∀ s ∈ l, ∀ t ∈ s.steps, t.position.line ≠ line) :
    locate l line = .step i j .afterLastStep ↔
      (¬ ∃ i j, Precedes l line i j) ∧ Trails l line i j := by
  refine ⟨fun h ↦ ⟨fun hp ↦ ?_, trails_of_locate hl h⟩, fun h ↦ locate_of_trails hl hf h.1 h.2⟩
  obtain ⟨i', j', hp⟩ := hp
  rw [(locate_eq_before_iff hl).mpr hp] at h
  cases h

theorem nearest_locate (hf : ∀ s ∈ l, ∀ t ∈ s.steps, t.position.line ≠ line) :
    Nearest l line ((locate l line).role?.getD .unattached) (locate l line).address? := by
  have hstep (i j : Nat) (r : Role) (hr : r ≠ .unattached) :
      (locate l line).role?.getD .unattached = r ∧ (locate l line).address? = some (i, j) ↔
        locate l line = .step i j r := by
    cases locate l line with
    | step i' j' r' => simp [role?, address?, and_comm, and_assoc]
    | aboveSections | withoutStep => simp [address?]
  have hb (i j : Nat) := (hstep i j .beforeStep (by decide)).trans (locate_eq_before_iff hl)
  have ha (i j : Nat) := (hstep i j .afterLastStep (by decide)).trans (locate_eq_after_iff hl hf)
  refine ⟨hb, ha, ?_⟩
  have hapart : (locate l line).role?.getD .unattached = .unattached ∧
      (locate l line).address? = none ↔ ∀ i j r, locate l line ≠ .step i j r := by
    cases hs : locate l line with
    | step i j r => simp [address?]
    | aboveSections | withoutStep => simp [role?, address?]
  rw [hapart]
  constructor
  · intro h
    have hp : ¬ ∃ i j, Precedes l line i j := by
      rintro ⟨i, j, hp⟩
      exact h i j _ ((locate_eq_before_iff hl).mpr hp)
    refine ⟨hp, ?_⟩
    rintro ⟨i, j, ht⟩
    exact h i j _ (locate_of_trails hl hf hp ht)
  · intro h i j r hs
    cases r with
    | unattached => exact locate_ne_unattached hs
    | beforeStep => exact h.1 ⟨i, j, (locate_eq_before_iff hl).mp hs⟩
    | afterLastStep => exact h.2 ⟨i, j, trails_of_locate hl hs⟩

end Ascending

end Site

namespace Commentary

variable {c : Commentary}

/-- Attaching remarks gives each of them to the step that is next to it by line, if one is, and
copies it there once, in its role and behind what was there before; nothing else is changed. -/
theorem attached_nearest (hl : Span.Ascending (c.sections.map Section.span))
    (hu : ∀ r ∈ c.remarks, r.role = .unattached)
    (hf : ∀ r ∈ c.remarks, ∀ s ∈ c.sections, ∀ t ∈ s.steps, t.position.line ≠ r.position.line) :
    ∃ placed : List (Remark × Option (Nat × Nat)),
      List.Forall₂ (fun r q ↦ q.1 = { r with role := q.1.role } ∧
        Site.Nearest c.sections r.position.line q.1.role q.2) c.remarks placed ∧
      c.attached.remarks = placed.map Prod.fst ∧
      c.attached.sections = c.sections.mapIdx fun i s ↦ { s with
        steps := s.steps.mapIdx fun j t ↦ { t with
          remarks := t.remarks ++ (placed.filter (·.2 = some (i, j))).map Prod.fst } } := by
  refine ⟨c.placed.map fun q ↦ (q.remark, q.site.address?), ?_, ?_, ?_⟩
  · rw [placed, List.map_map, List.forall₂_map_right_iff, List.forall₂_same]
    intro r hr
    refine ⟨rfl, ?_⟩
    have hn := Site.nearest_locate hl (hf r hr)
    rw [← hu r hr] at hn
    exact hn
  · rw [List.map_map]
    rfl
  · have hon (i j : Nat) : Placed.on c.placed i j = ((c.placed.map fun q ↦
        (q.remark, q.site.address?)).filter (·.2 = some (i, j))).map Prod.fst := by
      rw [List.filter_map, List.map_map, Placed.on]
      congr 1
      apply List.filter_congr
      intro q _
      rw [Bool.eq_iff_iff, Site.isStep_iff]
      exact decide_eq_true_iff.symm
    simp only [attached, Placed.attach, hon]

theorem attached_nearest_header :
    let step (line : Nat) : Step := ⟨⟨line, 5⟩, .context, "Given ", "a door", none, []⟩
    let remark (line : Nat) : Remark := ⟨"# why", ⟨line, 3⟩, .unattached⟩
    let c : Commentary :=
      ⟨[⟨"Open", "", ⟨2, 3⟩, [], [step 4, step 6], none, .scenario "open"⟩,
        ⟨"Lock", "", ⟨9, 3⟩, [], [], none, .scenario "lock"⟩,
        ⟨"Shut", "", ⟨12, 3⟩, [], [step 13], none, .scenario "shut"⟩],
      [remark 12, remark 9, remark 5, remark 1]⟩
    (Span.Ascending (c.sections.map Section.span) ∧ (∀ r ∈ c.remarks, r.role = .unattached) ∧
      ∀ r ∈ c.remarks, ∀ s ∈ c.sections, ∀ t ∈ s.steps, t.position.line ≠ r.position.line) ∧
    ∃ placed : List (Remark × Option (Nat × Nat)),
      List.Forall₂ (fun r q ↦ q.1 = { r with role := q.1.role } ∧
        Site.Nearest c.sections r.position.line q.1.role q.2) c.remarks placed ∧
      placed.map (fun q ↦ q.1.role) = [.unattached, .afterLastStep, .beforeStep, .unattached] := by
  intro step remark c
  have hl : Span.Ascending (c.sections.map Section.span) :=
    ⟨by decide, by decide, by decide, by decide⟩
  have hu : ∀ r ∈ c.remarks, r.role = .unattached := by decide
  have hf : ∀ r ∈ c.remarks, ∀ s ∈ c.sections, ∀ t ∈ s.steps,
      t.position.line ≠ r.position.line := by decide
  have hroles : c.attached.remarks.map Remark.role =
      [.unattached, .afterLastStep, .beforeStep, .unattached] := by decide
  obtain ⟨placed, hn, hr, -⟩ := attached_nearest hl hu hf
  refine ⟨⟨hl, hu, hf⟩, placed, hn, ?_⟩
  rw [← hroles, hr, List.map_map]
  rfl

end Commentary

end LivingDoc
