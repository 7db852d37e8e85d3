import LivingDoc.Unicode.Lowercase
import LivingDoc.Unicode.Word

namespace LivingDoc.Unicode

def covers : List (Nat × Nat) → Nat → Nat → Bool
  | [], _, _ => false
  | r :: l, first, last => r.1.ble first && (last.ble r.2 || covers l first last)

/-- A letter or numeral that is its own lower case. -/
structure Small (c : Char) : Prop where
  kept : isAlphanumeric c
  own : lowercase c = [c]

namespace Capitals

def dotted : Capitals := ⟨0x130, 0x130, 1, 0x69⟩

variable (r q : Capitals)

def top : Nat := r.lower + (r.last - r.first)

def isKept : Bool :=
  covers alphabetic r.lower r.top || covers numerals r.lower r.top ||
    (List.range (r.last - r.first + 1)).all fun k ↦
      k % r.step != 0 || covers alphabetic (r.lower + k) (r.lower + k)

/-- Whether the lower case of a run `r` has no capitals of a run `q`. -/
def avoids : Bool :=
  r.top.blt q.first || q.last.blt r.lower ||
    q.step == 2 && (r.step == 2 || r.first == r.last) && (r.lower + q.first) % 2 == 1

end Capitals

variable {c : Char} {l : List (Nat × Nat)} {r q : Capitals} {first last n : Nat}

theorem inRanges_of_covers (h : covers l first last) (hfirst : first ≤ n) (hlast : n ≤ last) :
    inRanges l n := by
  induction l with
  | nil => contradiction
  | cons r l ih =>
    simp only [covers, Bool.and_eq_true, Bool.or_eq_true, Nat.ble_eq] at h
    simp only [inRanges, Bool.and_eq_true, Bool.or_eq_true, decide_eq_true_eq]
    obtain ⟨hlower, hupper | hl⟩ := h
    · exact ⟨Nat.le_trans hlower hfirst, .inl (Nat.le_trans hlast hupper)⟩
    · exact ⟨Nat.le_trans hlower hfirst, .inr (ih hl)⟩

namespace Capitals

theorem holds_iff : r.holds n ↔ r.first ≤ n ∧ n ≤ r.last ∧ (n - r.first) % r.step = 0 := by
  rw [holds, Bool.and_eq_true, Bool.and_eq_true, decide_eq_true_eq, decide_eq_true_eq, beq_iff_eq,
    and_assoc]

theorem inRanges_of_isKept (h : r.isKept) (hn : r.holds n) :
    inRanges alphabetic (r.lower + (n - r.first)) ||
      inRanges numerals (r.lower + (n - r.first)) := by
  obtain ⟨hfirst, hlast, hstep⟩ := holds_iff.mp hn
  have htop : r.lower + (n - r.first) ≤ r.top := by
    rw [top]
    omega
  rw [isKept, Bool.or_eq_true, Bool.or_eq_true, List.all_eq_true] at h
  rw [Bool.or_eq_true]
  rcases h with (h | h) | h
  · exact .inl (inRanges_of_covers h (Nat.le_add_right _ _) htop)
  · exact .inr (inRanges_of_covers h (Nat.le_add_right _ _) htop)
  · have hk := h (n - r.first) (List.mem_range.mpr (by omega))
    rw [hstep] at hk
    exact .inl (inRanges_of_covers hk (Nat.le_refl _) (Nat.le_refl _))

theorem holds_of_avoids (h : r.avoids q) (hn : r.holds n) :
    q.holds (r.lower + (n - r.first)) = false := by
  obtain ⟨hfirst, hlast, hstep⟩ := holds_iff.mp hn
  simp only [avoids, top, Bool.or_eq_true, Bool.and_eq_true, Nat.blt_eq, beq_iff_eq] at h
  rw [← Bool.not_eq_true, holds_iff]
  intro hq
  rcases h with (h | h) | ⟨⟨hq2, hr2⟩, hodd⟩
  · omega
  · omega
  · rw [hq2] at hq
    rcases hr2 with hr2 | hr2
    · rw [hr2] at hstep
      omega
    · omega

theorem isKept_and_avoids : ∀ r ∈ capitals, r.isKept && (dotted :: capitals).all r.avoids := by
  decide +kernel

end Capitals

theorem lowercase_of_not_holds (h : ∀ q ∈ Capitals.dotted :: capitals, q.holds c.toNat = false) :
    lowercase c = [c] := by
  obtain ⟨hdotted, hcapitals⟩ := List.forall_mem_cons.mp h
  have hne : c.toNat ≠ 0x130 := by
    intro he
    rw [he] at hdotted
    contradiction
  rw [lowercase, if_neg hne, List.find?_eq_none.mpr fun q hq ↦
    Bool.eq_false_iff.mp (hcapitals q hq)]

theorem small_of_holds (hr : r ∈ capitals) (hn : r.holds n) :
    Small (Char.ofNat (r.lower + (n - r.first))) := by
  obtain ⟨hfirst, hlast, -⟩ := Capitals.holds_iff.mp hn
  have hnat : (Char.ofNat (r.lower + (n - r.first))).toNat = r.lower + (n - r.first) :=
    toNat_ofNat_of_isClear (isClear_capitals r hr).2 (Nat.le_add_right _ _) (by omega)
  have hcheck := Capitals.isKept_and_avoids r hr
  rw [Bool.and_eq_true, List.all_eq_true] at hcheck
  constructor
  · rw [isAlphanumeric, isAlphabetic, isNumeral, hnat]
    exact Capitals.inRanges_of_isKept hcheck.1 hn
  · refine lowercase_of_not_holds fun q hq ↦ ?_
    rw [hnat]
    exact Capitals.holds_of_avoids (hcheck.2 q hq) hn

/-- The lower case of a letter or numeral is a small one, behind which only the dotted capital I
leaves something more. -/
theorem exists_small (hc : isAlphanumeric c) :
    ∃ d, Small d ∧ lowercase c = d :: if c = '\u0130' then ['\u0307'] else [] := by
  by_cases hdotted : c = '\u0130'
  · rw [hdotted]
    exact ⟨'i', ⟨by decide, by decide +kernel⟩, rfl⟩
  · rw [if_neg hdotted]
    have hne : c.toNat ≠ 0x130 := fun he ↦ hdotted (Char.toNat_inj.mp he)
    cases hfind : capitals.find? (·.holds c.toNat) with
    | none =>
      have hown : lowercase c = [c] := by rw [lowercase, if_neg hne, hfind]
      exact ⟨c, ⟨hc, hown⟩, hown⟩
    | some r =>
      have hholds := List.find?_some hfind
      refine ⟨_, small_of_holds (List.mem_of_find?_eq_some hfind) hholds, ?_⟩
      rw [lowercase, if_neg hne, hfind]

end LivingDoc.Unicode
