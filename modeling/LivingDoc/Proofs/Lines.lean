import LivingDoc.Text.Basic
import LivingDoc.Text.Line
import Mathlib.Data.List.Infix
import Mathlib.Data.List.TakeWhile

namespace LivingDoc

namespace Text

/-- A line without one carriage return at its end. -/
def dropReturn (l : List Char) : List Char := if l.getLast? = some '\r' then l.dropLast else l

theorem dropReturn_cons {c : Char} {l : List Char} (h : c ≠ '\r' ∨ l ≠ []) :
    dropReturn (c :: l) = c :: dropReturn l := by
  cases l with
  | nil => simp_all [dropReturn]
  | cons d l =>
    simp only [dropReturn, List.getLast?_cons_cons, List.dropLast_cons_cons]
    split <;> rfl

theorem dropReturn_append {m : List Char} (hm : m ≠ []) (l : List Char) :
    dropReturn (l ++ m) = l ++ dropReturn m := by
  induction l with
  | nil => rfl
  | cons c l ih =>
    rw [List.cons_append, dropReturn_cons (.inr (by simp [hm])), ih, List.cons_append]

theorem lines_line {p : List Char} (hp : '\n' ∉ p) (l : List Char) :
    lines (p ++ '\n' :: l) = dropReturn p :: lines l := by
  induction p with
  | nil => simp [lines, dropReturn]
  | cons c p ih =>
    obtain ⟨hc, hp⟩ := List.ne_and_not_mem_of_not_mem_cons hp
    by_cases hcr : c = '\r' ∧ p = []
    · obtain ⟨rfl, rfl⟩ := hcr
      simp [lines, dropReturn]
    · have hne : c ≠ '\r' ∨ p ≠ [] := by tauto
      rw [dropReturn_cons hne, List.cons_append, lines, ih hp]
      · exact fun h ↦ hc h.symm
      · intro l' hr hl
        cases p with
        | nil => tauto
        | cons d p =>
          obtain ⟨rfl, -⟩ := List.cons.inj hl
          exact hp List.mem_cons_self

/-- A text is made of whole lines. -/
inductive Whole : List Char → Prop
  | nil : Whole []
  | line {p l : List Char} : '\n' ∉ p → Whole l → Whole (p ++ '\n' :: l)

theorem Whole.append_newline {p l : List Char} (hp : '\n' ∉ p) (hl : l.getLast? = some '\n') :
    Whole (p ++ l) := by
  induction l generalizing p with
  | nil => cases hl
  | cons c l ih =>
    by_cases hc : c = '\n'
    · subst hc
      refine .line hp ?_
      cases l with
      | nil => exact .nil
      | cons d l => exact ih (p := []) (by simp) (by simpa using hl)
    · have hne : l ≠ [] := by
        rintro rfl
        simp_all
      have hl : l.getLast? = some '\n' := by rwa [List.getLast?_cons_of_ne_nil hne] at hl
      have := ih (p := p ++ [c]) (by simp [hp, Ne.symm hc]) hl
      rwa [List.append_assoc] at this

theorem whole_iff {l : List Char} : Whole l ↔ l = [] ∨ l.getLast? = some '\n' := by
  constructor
  · intro h
    induction h with
    | nil => exact .inl rfl
    | @line p l _ _ ih => rcases ih with rfl | ih <;> simp [List.getLast?_cons, *]
  · rintro (rfl | h)
    · exact .nil
    · exact Whole.append_newline (p := []) (by simp) h

theorem lines_append {a : List Char} (ha : Whole a) (b : List Char) :
    lines (a ++ b) = lines a ++ lines b := by
  induction ha with
  | nil => rfl
  | @line p l hp _ ih =>
    rw [List.append_assoc, List.cons_append, lines_line hp, lines_line hp, ih, List.cons_append]

theorem Whole.append {a b : List Char} (ha : Whole a) (hb : Whole b) : Whole (a ++ b) := by
  induction ha with
  | nil => exact hb
  | line hp _ ih =>
    rw [List.append_assoc, List.cons_append]
    exact .line hp ih

theorem lines_insert {a p : List Char} (ha : Whole a) (hp : '\n' ∉ p) (b : List Char) :
    lines (a ++ (p ++ ['\n']) ++ b) = lines a ++ dropReturn p :: lines b := by
  rw [List.append_assoc, List.append_assoc, List.singleton_append, lines_append ha, lines_line hp]

theorem endLine_append {a b : List Char} (ha : Whole a) (hab : a ++ b ≠ []) :
    endLine (a ++ b) = a ++ (if b = [] then [] else endLine b) := by
  by_cases hb : b = []
  · subst hb
    have hne : a ≠ [] := by simpa using hab
    simp [endLine, (whole_iff.mp ha).resolve_left hne]
  · rw [if_neg hb, endLine, endLine, List.getLast?_append_of_ne_nil _ hb]
    split <;> simp

theorem endLine_whole (l : List Char) : Whole (endLine l) := by
  rw [whole_iff, endLine]
  split
  · exact .inr ‹_›
  · exact .inr (by simp)

theorem endLine_insert {a k : List Char} (ha : Whole a) (hk : Whole k) (hne : k ≠ [])
    (b : List Char) :
    ∃ b', endLine (a ++ k ++ b) = a ++ k ++ b' ∧
      (endLine (a ++ b) = a ++ b' ∨ endLine (a ++ b) = ['\n'] ∧ a ++ b' = []) := by
  refine ⟨if b = [] then [] else endLine b, endLine_append (ha.append hk) (by simp [hne]), ?_⟩
  by_cases hab : a ++ b = []
  · obtain ⟨rfl, rfl⟩ := List.append_eq_nil_iff.mp hab
    exact .inr ⟨rfl, rfl⟩
  · exact .inl (endLine_append ha hab)

theorem eq_dropReturn_append (l : List Char) :
    ∃ x, x.all Unicode.isBlank ∧ l = dropReturn l ++ x := by
  rw [dropReturn]
  split
  · next h =>
    obtain ⟨l, rfl⟩ := List.getLast?_eq_some_iff.mp h
    exact ⟨['\r'], by decide, by simp⟩
  · exact ⟨[], rfl, (List.append_nil l).symm⟩

theorem trimStart_of_all {p : List Char} (hp : p.all Unicode.isBlank) (l : List Char) :
    trimStart (p ++ l) = trimStart l := by
  rw [trimStart, List.dropWhile_append_of_pos (List.all_eq_true.mp hp), trimStart]

theorem trimStart_append {p : List Char} (hp : ¬ p.all Unicode.isBlank) (l : List Char) :
    trimStart (p ++ l) = trimStart p ++ l := by
  rw [trimStart, List.dropWhile_append, if_neg]
  · rfl
  · rw [List.isEmpty_iff, List.dropWhile_eq_nil_iff]
    simpa using hp

theorem trimStart_eq_nil {p : List Char} (hp : p.all Unicode.isBlank) : trimStart p = [] :=
  List.dropWhile_eq_nil_iff.mpr (List.all_eq_true.mp hp)

theorem trimStart_cons {c : Char} (hc : Unicode.isBlank c = false) (l : List Char) :
    trimStart (c :: l) = c :: l := by
  rw [trimStart, List.dropWhile_cons, hc, if_neg Bool.false_ne_true]

theorem trimStart_blank_append {w : List Char} (hw : w.all Unicode.isBlank) {c : Char}
    (hc : Unicode.isBlank c = false) (l : List Char) : trimStart (w ++ c :: l) = c :: l := by
  rw [trimStart_of_all hw, trimStart_cons hc]

theorem trimStart_eq_cons_iff {c : Char} {line l : List Char} : trimStart line = c :: l ↔
    Unicode.isBlank c = false ∧ ∃ w : List Char, w.all Unicode.isBlank ∧ line = w ++ c :: l := by
  constructor
  · intro h
    refine ⟨?_, line.takeWhile Unicode.isBlank, List.all_takeWhile, ?_⟩
    · have hnot := List.head?_dropWhile_not Unicode.isBlank line
      rw [trimStart] at h
      simpa [h] using hnot
    · rw [← h, trimStart, List.takeWhile_append_dropWhile]
  · rintro ⟨hc, w, hw, rfl⟩
    exact trimStart_blank_append hw hc l

theorem takeWhile_blank_append {w : List Char} (hw : w.all Unicode.isBlank) {c : Char}
    (hc : Unicode.isBlank c = false) (l : List Char) :
    (w ++ c :: l).takeWhile Unicode.isBlank = w := by
  rw [List.takeWhile_append_of_pos (List.all_eq_true.mp hw),
    List.takeWhile_cons_of_neg (by simp [hc]),
    List.append_nil]

theorem trimEnd_append_blank {x : List Char} (hx : x.all Unicode.isBlank) (l : List Char) :
    trimEnd (l ++ x) = trimEnd l := by
  have hrev : ∀ c ∈ x.reverse, Unicode.isBlank c := fun c hc ↦
    List.all_eq_true.mp hx c (List.mem_reverse.mp hc)
  rw [trimEnd, List.reverse_append, List.dropWhile_append_of_pos hrev, trimEnd]

theorem trimEnd_cons {c : Char} (hc : Unicode.isBlank c = false) (l : List Char) :
    trimEnd (c :: l) = c :: trimEnd l := by
  rw [trimEnd, trimEnd, List.reverse_cons, List.dropWhile_append]
  split
  · next h => simp [List.isEmpty_iff.mp h, hc]
  · simp

theorem eq_trim_append (l : List Char) : l =
    l.takeWhile Unicode.isBlank ++ trim l ++
      ((trimStart l).reverse.takeWhile Unicode.isBlank).reverse := by
  rw [trim, trimEnd, List.append_assoc, ← List.reverse_append, List.takeWhile_append_dropWhile,
    List.reverse_reverse, trimStart, List.takeWhile_append_dropWhile]

theorem exists_whole (l : List Char) : ∃ u p, l = u ++ p ∧ Whole u ∧ '\n' ∉ p := by
  induction l with
  | nil => exact ⟨[], [], rfl, .nil, List.not_mem_nil⟩
  | cons c l ih =>
    obtain ⟨u, p, rfl, hu, hp⟩ := ih
    by_cases hc : c = '\n'
    · subst hc
      exact ⟨'\n' :: u, p, rfl, .line (p := []) List.not_mem_nil hu, hp⟩
    · cases hu with
      | nil => exact ⟨[], c :: p, rfl, .nil, by simp [hp, Ne.symm hc]⟩
      | @line q u hq hu =>
        exact ⟨c :: q ++ '\n' :: u, p, rfl, .line (by simp [hq, Ne.symm hc]) hu, hp⟩

theorem lines_of_not_mem {p : List Char} (hp : '\n' ∉ p) (hne : p ≠ []) : lines p = [p] := by
  induction p with
  | nil => exact absurd rfl hne
  | cons c p ih =>
    obtain ⟨hc, hp⟩ := List.ne_and_not_mem_of_not_mem_cons hp
    rw [lines]
    · by_cases hpe : p = []
      · subst hpe
        rfl
      · rw [ih hp hpe]
    · exact Ne.symm hc
    · rintro q - rfl
      exact hp List.mem_cons_self

theorem lines_append_line {u p : List Char} (hu : Whole u) (hp : '\n' ∉ p) (hne : p ≠ []) :
    lines (u ++ p) = lines u ++ [p] := by rw [lines_append hu, lines_of_not_mem hp hne]

theorem length_lines {u : List Char} (hu : Whole u) : (lines u).length = u.count '\n' := by
  induction hu with
  | nil => rfl
  | line hp _ ih =>
    rw [lines_line hp, List.length_cons, ih, List.count_append, List.count_eq_zero.mpr hp,
      List.count_cons_self, Nat.zero_add]

theorem not_mem_dropReturn {p : List Char} (hp : '\n' ∉ p) : '\n' ∉ dropReturn p := by
  obtain ⟨x, -, hx⟩ := eq_dropReturn_append p
  exact fun h ↦ hp (hx ▸ List.mem_append_left x h)

theorem not_mem_of_mem_lines {l line : List Char} (h : line ∈ lines l) : '\n' ∉ line := by
  obtain ⟨u, p, rfl, hu, hp⟩ := exists_whole l
  induction hu with
  | nil =>
    by_cases hne : p = []
    · subst hne
      cases h
    · rw [List.nil_append, lines_of_not_mem hp hne, List.mem_singleton] at h
      rwa [h]
  | line hq _ ih =>
    rw [List.append_assoc, List.cons_append, lines_line hq] at h
    rcases List.mem_cons.mp h with rfl | h
    · exact not_mem_dropReturn hq
    · exact ih h

theorem count_intercalate {ls : List (List Char)} (h : ∀ l ∈ ls, '\n' ∉ l) :
    (['\n'].intercalate ls).count '\n' = ls.length - 1 := by
  induction ls with
  | nil => rfl
  | cons l ls ih =>
    have hl := List.count_eq_zero.mpr (h l List.mem_cons_self)
    cases ls with
    | nil => simpa using hl
    | cons m ls =>
      rw [List.intercalate_cons_cons, List.count_append, List.count_append, hl,
        ih fun l hl ↦ h l (List.mem_cons_of_mem _ hl)]
      simp
      omega

theorem blank_of_intercalate {ls : List (List Char)}
    (h : (['\n'].intercalate ls).all Unicode.isBlank) : ∀ l ∈ ls, l.all Unicode.isBlank := by
  induction ls with
  | nil => exact nofun
  | cons l ls ih =>
    cases ls with
    | nil =>
      rw [List.intercalate_singleton] at h
      exact List.forall_mem_singleton.mpr h
    | cons m ls =>
      rw [List.intercalate_cons_cons, List.append_assoc, List.all_append, List.all_append,
        Bool.and_eq_true, Bool.and_eq_true] at h
      exact List.forall_mem_cons.mpr ⟨h.1, ih h.2.2⟩

theorem intercalate_concat {ls : List (List Char)} (hne : ls ≠ []) (m : List Char) :
    ['\n'].intercalate (ls ++ [m]) = ['\n'].intercalate ls ++ '\n' :: m := by
  induction ls with
  | nil => exact absurd rfl hne
  | cons l ls ih =>
    by_cases hls : ls = []
    · subst hls
      simp [List.intercalate_cons_cons]
    · rw [List.cons_append, List.intercalate_cons_of_ne_nil (by simp), ih hls,
        List.intercalate_cons_of_ne_nil hls]
      simp only [List.append_assoc]

theorem concat_of_intercalate {ls : List (List Char)} {m : List Char} (hm : '\n' ∉ m)
    (h : (['\n'].intercalate (ls ++ [m])).getLast? = some '\n') : m = [] ∧ ls ≠ [] := by
  by_cases hne : ls = []
  · subst hne
    rw [List.nil_append, List.intercalate_singleton] at h
    exact absurd (List.mem_of_getLast? h) hm
  · rw [intercalate_concat hne, List.getLast?_append_of_ne_nil _ (List.cons_ne_nil _ _)] at h
    refine ⟨?_, hne⟩
    by_contra hm'
    rw [List.getLast?_cons_of_ne_nil hm'] at h
    exact hm (List.mem_of_getLast? h)

def Space (x : List Char) : Prop := '\n' ∉ x ∧ x.all Unicode.isBlank

instance (x : List Char) : Decidable (Space x) := inferInstanceAs (Decidable (_ ∧ _))

namespace Space

variable {x y w : List Char}

theorem nil : Space [] := ⟨List.not_mem_nil, rfl⟩

theorem append (hx : Space x) (hy : Space y) : Space (x ++ y) :=
  ⟨by simp [hx.1, hy.1], by simp [hx.2, hy.2]⟩

theorem trimStart (hw : Space w) (y : List Char) : trimStart (w ++ y) = Text.trimStart y :=
  trimStart_of_all hw.2 y

end Space

end Text

end LivingDoc
