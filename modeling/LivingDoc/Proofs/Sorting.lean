import LivingDoc.Position
import Mathlib.Data.List.Basic
import Mathlib.Data.List.Pairwise

namespace LivingDoc

namespace Position

theorem le_trans (p q r : Position) (hpq : p.le q) (hqr : q.le r) : p.le r := by
  simp only [le, Bool.or_eq_true, Bool.and_eq_true, decide_eq_true_eq] at *
  omega

theorem le_total (p q : Position) : p.le q || q.le p := by
  simp only [le, Bool.or_eq_true, Bool.and_eq_true, decide_eq_true_eq]
  omega

theorem le_refl (p : Position) : p.le p := by simp [le]

theorem line_le {p q : Position} (h : p.le q) : p.line ≤ q.line := by
  simp only [le, Bool.or_eq_true, Bool.and_eq_true, decide_eq_true_eq] at h
  omega

end Position

section Sorting

variable {α : Type} {le : α → α → Bool} (trans : ∀ a b c, le a b → le b c → le a c)
  (total : ∀ a b, le a b || le b a)
include trans total

theorem mergeSort_cons_eq_filter (a : α) (l : List α) : (a :: l).mergeSort le =
    (l.mergeSort le).filter (fun b ↦ !le a b) ++ a :: (l.mergeSort le).filter (le a) := by
  obtain ⟨l₁, l₂, ha, hl, hlt⟩ := List.mergeSort_cons trans total a l
  have hs := List.pairwise_mergeSort trans total (a :: l)
  rw [ha, List.pairwise_append] at hs
  have hge : ∀ b ∈ l₂, le a b := (List.pairwise_cons.mp hs.2.1).1
  have h₁ : l₁.filter (fun b ↦ !le a b) = l₁ := List.filter_eq_self.mpr hlt
  have h₁' : l₁.filter (le a) = [] :=
    List.filter_eq_nil_iff.mpr fun b hb ↦ by simpa using hlt b hb
  have h₂ : l₂.filter (le a) = l₂ := List.filter_eq_self.mpr hge
  have h₂' : l₂.filter (fun b ↦ !le a b) = [] :=
    List.filter_eq_nil_iff.mpr fun b hb ↦ by simpa using hge b hb
  rw [ha, hl, List.filter_append, List.filter_append, h₁, h₁', h₂, h₂', List.append_nil,
    List.nil_append]

/-- Some of the entries of a list are sorted in as they are among all of them. -/
theorem filter_mergeSort (p : α → Bool) (l : List α) :
    (l.mergeSort le).filter p = (l.filter p).mergeSort le := by
  induction l with
  | nil => simp
  | cons a l ih =>
    by_cases hp : p a
    · rw [List.filter_cons_of_pos hp, mergeSort_cons_eq_filter trans total,
        mergeSort_cons_eq_filter trans total, List.filter_append, List.filter_cons_of_pos hp,
        List.filter_comm, ih, List.filter_comm p (le a), ih]
    · obtain ⟨l₁, l₂, ha, hl, -⟩ := List.mergeSort_cons trans total a l
      rw [List.filter_cons_of_neg hp, ← ih, ha, hl, List.filter_append, List.filter_append,
        List.filter_cons_of_neg hp]

end Sorting

theorem filter_mergeSort_place {α : Type} (key : α → Position) (l : List α) (place : Position) :
    (l.mergeSort fun a b ↦ (key a).le (key b)).filter (key · = place) =
      l.filter (key · = place) := by
  rw [filter_mergeSort (fun a b c ↦ Position.le_trans (key a) (key b) (key c))
    fun a b ↦ Position.le_total (key a) (key b)]
  apply List.mergeSort_of_pairwise
  refine List.pairwise_of_forall_mem_list fun a ha b hb ↦ ?_
  have hpa : key a = place := by simpa using (List.mem_filter.mp ha).2
  have hpb : key b = place := by simpa using (List.mem_filter.mp hb).2
  rw [hpa, hpb]
  exact place.le_refl

end LivingDoc
