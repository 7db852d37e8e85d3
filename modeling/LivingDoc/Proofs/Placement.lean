import LivingDoc.Remark.Placement
import Mathlib.Data.List.Pairwise

namespace LivingDoc

structure Span where
  header : Nat
  steps : List Nat

namespace Span

/-- Whether a line lies between the header and the last step. -/
def holds (s : Span) (line : Nat) : Bool := s.header < line && s.steps.getLast?.any (line < ·)

/-- Whether a line lies in the gap that leads to a part: above the first header, or between the last
step of the part before and the header. -/
def leads (l : List Span) : Nat → Nat → Bool
  | 0, line => l[0]?.any (line < ·.header)
  | k + 1, line => l[k]?.any (·.steps.getLast?.any (· < line)) && l[k + 1]?.any (line < ·.header)

/-- The parts of a feature as they follow one another: each header stands above its steps, the steps
ascend, and they end above the next header. -/
structure Ascending (l : List Span) : Prop where
  headers : l.Pairwise fun s t ↦ s.header < t.header
  steps : ∀ s ∈ l, s.steps.Pairwise (· < ·)
  below : ∀ s ∈ l, ∀ n ∈ s.steps, s.header < n
  before : l.Pairwise fun s t ↦ ∀ n ∈ s.steps, n < t.header

def Free (l : List Span) (line : Nat) : Prop := ∀ s ∈ l, line ≠ s.header ∧ line ∉ s.steps

instance (l : List Span) (line : Nat) : Decidable (Free l line) :=
  inferInstanceAs (Decidable (∀ s ∈ l, line ≠ s.header ∧ line ∉ s.steps))

theorem le_getLast {l : List Nat} (hl : l.Pairwise (· < ·)) {n m : Nat} (hm : l.getLast? = some m)
    (hn : n ∈ l) : n ≤ m := by
  induction l with
  | nil => cases hn
  | cons a l ih =>
    obtain ⟨ha, hl⟩ := List.pairwise_cons.mp hl
    cases l with
    | nil => simp_all
    | cons b l =>
      have hm : (b :: l).getLast? = some m := by simpa using hm
      rcases List.mem_cons.mp hn with rfl | hn
      · exact Nat.le_of_lt (ha m (List.mem_of_getLast? hm))
      · exact ih hl hm hn

end Span

def Section.span (s : Section) : Span := ⟨s.position.line, s.steps.map (·.position.line)⟩

namespace Site

/-- The number of the last section that begins above a line. -/
def owner : List Section → Nat → Option Nat
  | [], _ => none
  | s :: l, line =>
    match owner l line with
    | some i => some (i + 1)
    | none => if s.position.line < line then some 0 else none

variable {l : List Section} {steps : List Step} {s : Section} {line i j k : Nat} {r : Role}

theorem owner_eq_none : owner l line = none ↔ ∀ s ∈ l, line ≤ s.position.line := by
  induction l with
  | nil => simp [owner]
  | cons s l ih =>
    rw [owner, List.forall_mem_cons, ← ih]
    cases owner l line with
    | some i => simp
    | none => simp only [ite_eq_right_iff, reduceCtorEq, imp_false, Nat.not_lt, and_true]

theorem owner_eq_some : owner l line = some i ↔ (∃ s, l[i]? = some s ∧ s.position.line < line) ∧
    ∀ j s, i < j → l[j]? = some s → line ≤ s.position.line := by
  induction l generalizing i with
  | nil => simp [owner]
  | cons s l ih =>
    rw [owner]
    cases ho : owner l line with
    | some m =>
      obtain ⟨⟨t, ht, hlt⟩, hm⟩ := ih.mp ho
      constructor
      · intro h
        cases h
        refine ⟨⟨t, ht, hlt⟩, fun j u hj hu ↦ ?_⟩
        obtain ⟨j, rfl⟩ : ∃ n, j = n + 1 := ⟨j - 1, by omega⟩
        exact hm j u (by omega) hu
      · intro h
        obtain ⟨⟨u, hu, hul⟩, hi⟩ := h
        cases i with
        | zero => exact absurd (hi (m + 1) t (by omega) ht) (by omega)
        | succ i =>
          have hi' := ih.mpr ⟨⟨u, hu, hul⟩, fun j v hj hv ↦ hi (j + 1) v (by omega) hv⟩
          rw [ho] at hi'
          exact congrArg (Option.map (· + 1)) hi'
    | none =>
      have hn := owner_eq_none.mp ho
      dsimp only
      split
      · next hlt =>
        constructor
        · intro h
          cases h
          refine ⟨⟨s, rfl, hlt⟩, fun j u hj hu ↦ ?_⟩
          obtain ⟨j, rfl⟩ : ∃ n, j = n + 1 := ⟨j - 1, by omega⟩
          exact hn u (List.mem_of_getElem? hu)
        · intro h
          obtain ⟨⟨u, hu, hul⟩, -⟩ := h
          cases i with
          | zero => rfl
          | succ i => exact absurd (hn u (List.mem_of_getElem? hu)) (by omega)
      · next hlt =>
        simp only [reduceCtorEq, false_iff, not_and]
        intro h
        obtain ⟨u, hu, hul⟩ := h
        cases i with
        | zero =>
          obtain rfl : s = u := by simpa using hu
          exact absurd hul hlt
        | succ i => exact absurd (hn u (List.mem_of_getElem? hu)) (by omega)

theorem among_eq_before : among steps line = .step i j .beforeStep ↔
    i = 0 ∧ steps.findIdx? (line < ·.position.line) = some j := by
  unfold among
  cases steps.findIdx? (line < ·.position.line) with
  | some m => simp [eq_comm]
  | none => cases steps.getLast? <;> simp; split <;> simp

theorem among_eq_after : among steps line = .step i j .afterLastStep ↔
    i = 0 ∧ j = steps.length - 1 ∧ steps.findIdx? (line < ·.position.line) = none ∧
      ∃ t, steps.getLast? = some t ∧ t.position.line < line := by
  unfold among
  cases steps.findIdx? (line < ·.position.line) with
  | some m => simp
  | none =>
    cases steps.getLast? with
    | none => simp
    | some t => by_cases h : t.position.line < line <;> simp [h, eq_comm, and_comm]

theorem among_ne_above : among steps line ≠ .aboveSections := by
  unfold among
  cases steps.findIdx? (line < ·.position.line) with
  | some m => simp
  | none => cases steps.getLast? <;> simp; split <;> simp

theorem among_ne_unattached : among steps line ≠ .step i j .unattached := by
  unfold among
  cases steps.findIdx? (line < ·.position.line) with
  | some m => simp
  | none => cases steps.getLast? <;> simp; split <;> simp

theorem eq_zero_of_among (h : among steps line = .step i j r) : i = 0 := by
  cases r with
  | unattached => exact absurd h among_ne_unattached
  | beforeStep => exact (among_eq_before.mp h).1
  | afterLastStep => exact (among_eq_after.mp h).1

theorem locate_eq_above : locate l line = .aboveSections ↔ owner l line = none := by
  induction l with
  | nil => simp [locate, owner]
  | cons s l ih =>
    rw [locate, owner]
    cases ho : owner l line with
    | none =>
      rw [ih.mpr ho]
      by_cases h : s.position.line < line <;> simp [h, among_ne_above]
    | some m =>
      have hl : locate l line ≠ .aboveSections := fun h ↦ by simp [ih.mp h] at ho
      cases hs : locate l line <;> simp_all [below]

/-- A line is placed at a step by the section that it belongs to. -/
theorem locate_eq_step : locate l line = .step i j r ↔
    owner l line = some i ∧ ∃ s, l[i]? = some s ∧ among s.steps line = .step 0 j r := by
  induction l generalizing i with
  | nil => simp [locate, owner]
  | cons s l ih =>
    rw [locate, owner]
    cases ho : owner l line with
    | none =>
      rw [locate_eq_above.mpr ho]
      by_cases h : s.position.line < line
      · rw [if_pos h]
        constructor
        · intro ha
          obtain rfl := eq_zero_of_among ha
          exact ⟨if_pos h, s, rfl, ha⟩
        · intro h
          obtain ⟨hi, t, ht, ha⟩ := h
          obtain rfl : 0 = i := by simpa [h] using hi
          obtain rfl : s = t := by simpa using ht
          exact ha
      · simp [h]
    | some m =>
      have hl : locate l line ≠ .aboveSections := fun h ↦ by simp [locate_eq_above.mp h] at ho
      cases i with
      | zero => cases hs : locate l line <;> simp_all [below]
      | succ i =>
        have hi := ih (i := i)
        cases hs : locate l line <;> simp_all [below]

theorem locate_ne_unattached : locate l line ≠ .step i j .unattached := by
  intro h
  obtain ⟨-, s, -, ha⟩ := locate_eq_step.mp h
  exact among_ne_unattached ha

theorem owner_eq_none_of_head (hl : Span.Ascending ((s :: l).map Section.span)) :
    owner (s :: l) line = none ↔ line ≤ s.position.line := by
  rw [owner_eq_none, List.forall_mem_cons, and_iff_left_iff_imp]
  intro hle t ht
  have hh := (List.pairwise_cons.mp (List.pairwise_map.mp hl.headers)).1 t ht
  exact Nat.le_trans hle (Nat.le_of_lt hh)

theorem header_lt_of_owner (ho : owner l line = some i) (hs : l[i]? = some s) :
    s.position.line < line := by
  obtain ⟨⟨t, ht, hlt⟩, -⟩ := owner_eq_some.mp ho
  obtain rfl : s = t := Option.some.inj (hs.symm.trans ht)
  exact hlt

theorem span_holds : s.span.holds line ↔
    s.position.line < line ∧ ∃ t, s.steps.getLast? = some t ∧ line < t.position.line := by
  dsimp only [Span.holds, Section.span]
  simp only [List.getLast?_map, Option.any_map, Bool.and_eq_true, decide_eq_true_eq,
    Option.any_eq_true]

section Ascending

variable (hl : Span.Ascending (l.map Section.span)) (hs : l[i]? = some s)
include hl hs

theorem le_last_step {t u : Step} (hu : s.steps.getLast? = some u) (ht : t ∈ s.steps) :
    t.position.line ≤ u.position.line := by
  have hp := hl.steps _ (List.mem_map_of_mem (List.mem_of_getElem? hs))
  exact Span.le_getLast hp (by simp [Section.span, hu]) (List.mem_map_of_mem ht)

theorem le_later_header {t : Step} {u : Section} (ht : t ∈ s.steps) (hu : l[j]? = some u)
    (hj : i < j) : t.position.line < u.position.line := by
  have hb := List.pairwise_iff_getElem.mp (List.pairwise_map.mp hl.before) i j
    (List.getElem?_eq_some_iff.mp hs).1 (List.getElem?_eq_some_iff.mp hu).1 hj
  rw [(List.getElem?_eq_some_iff.mp hs).2, (List.getElem?_eq_some_iff.mp hu).2] at hb
  exact hb _ (List.mem_map_of_mem ht)

theorem header_le {u : Section} (hu : l[j]? = some u) (hj : i ≤ j) :
    s.position.line ≤ u.position.line := by
  rcases Nat.eq_or_lt_of_le hj with rfl | hj
  · obtain rfl : s = u := Option.some.inj (hs.symm.trans hu)
    exact Nat.le_refl _
  · have hh := List.pairwise_iff_getElem.mp (List.pairwise_map.mp hl.headers) i j
      (List.getElem?_eq_some_iff.mp hs).1 (List.getElem?_eq_some_iff.mp hu).1 hj
    rw [(List.getElem?_eq_some_iff.mp hs).2, (List.getElem?_eq_some_iff.mp hu).2] at hh
    exact Nat.le_of_lt hh

theorem locate_eq_before : locate l line = .step i j .beforeStep ↔
    s.span.holds line ∧ s.steps.findIdx (line < ·.position.line) = j := by
  rw [locate_eq_step, span_holds]
  constructor
  · intro h
    obtain ⟨ho, t, ht, ha⟩ := h
    obtain rfl : s = t := Option.some.inj (hs.symm.trans ht)
    obtain ⟨hj, hi⟩ := List.findIdx?_eq_some_iff_findIdx_eq.mp (among_eq_before.mp ha).2
    obtain ⟨t, ht, hlt⟩ := List.findIdx_lt_length.mp (hi ▸ hj)
    obtain ⟨u, hu⟩ : ∃ u, s.steps.getLast? = some u :=
      ⟨_, List.getLast?_eq_some_getLast (List.ne_nil_of_mem ht)⟩
    have htu := le_last_step hl hs hu ht
    have hlt := of_decide_eq_true hlt
    exact ⟨⟨header_lt_of_owner ho hs, u, hu, by omega⟩, hi⟩
  · intro h
    obtain ⟨⟨hlt, u, hu, hul⟩, hi⟩ := h
    have hum := List.mem_of_getLast? hu
    have ho : owner l line = some i := by
      refine owner_eq_some.mpr ⟨⟨s, hs, hlt⟩, fun j t hj ht ↦ ?_⟩
      have hh := le_later_header hl hs hum ht hj
      omega
    have hj : s.steps.findIdx (line < ·.position.line) < s.steps.length :=
      List.findIdx_lt_length.mpr ⟨u, hum, decide_eq_true hul⟩
    exact ⟨ho, s, hs, among_eq_before.mpr
      ⟨rfl, List.findIdx?_eq_some_iff_findIdx_eq.mpr ⟨hi ▸ hj, hi⟩⟩⟩

theorem locate_eq_after {u : Section} (hu : l[i + 1]? = some u) (hf : line ≠ u.position.line) :
    locate l line = .step i j .afterLastStep ↔ j = s.steps.length - 1 ∧
      ∃ t, s.steps.getLast? = some t ∧ t.position.line < line ∧ line < u.position.line := by
  rw [locate_eq_step]
  constructor
  · intro h
    obtain ⟨ho, t, ht, ha⟩ := h
    obtain rfl : s = t := Option.some.inj (hs.symm.trans ht)
    obtain ⟨-, hj, -, t, ht, hlt⟩ := among_eq_after.mp ha
    have hle := (owner_eq_some.mp ho).2 (i + 1) u (by omega) hu
    exact ⟨hj, t, ht, hlt, by omega⟩
  · intro h
    obtain ⟨hj, t, ht, hlt, hlu⟩ := h
    have htm := List.mem_of_getLast? ht
    have hh := hl.below _ (List.mem_map_of_mem (List.mem_of_getElem? hs)) _
      (List.mem_map_of_mem htm)
    have ho : owner l line = some i := by
      refine owner_eq_some.mpr ⟨⟨s, hs, Nat.lt_trans hh hlt⟩, fun j v hj hv ↦ ?_⟩
      exact Nat.le_trans (Nat.le_of_lt hlu) (header_le hl hu hv hj)
    have hn : s.steps.findIdx? (line < ·.position.line) = none := by
      apply List.findIdx?_eq_none_iff.mpr
      intro v hv
      have hle := le_last_step hl hs ht hv
      exact decide_eq_false (by omega)
    exact ⟨ho, s, hs, among_eq_after.mpr ⟨rfl, hj, hn, t, ht, hlt⟩⟩

end Ascending

end Site

end LivingDoc
