namespace LivingDoc.Unicode

def inRanges : List (Nat × Nat) → Nat → Bool
  | [], _ => false
  | (first, last) :: l, n => first ≤ n && (n ≤ last || inRanges l n)

theorem exists_range_of_inRanges {l : List (Nat × Nat)} {n : Nat} (h : inRanges l n) :
    ∃ r ∈ l, r.1 ≤ n ∧ n ≤ r.2 := by
  induction l with
  | nil => exact absurd h Bool.false_ne_true
  | cons r l ih =>
    simp only [inRanges, Bool.and_eq_true, Bool.or_eq_true, decide_eq_true_eq] at h
    obtain ⟨hfirst, hlast | hl⟩ := h
    · exact ⟨r, List.mem_cons_self, hfirst, hlast⟩
    · obtain ⟨q, hq, hn⟩ := ih hl
      exact ⟨q, List.mem_cons_of_mem r hq, hn⟩

end LivingDoc.Unicode
