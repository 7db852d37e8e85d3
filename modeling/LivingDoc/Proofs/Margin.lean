import LivingDoc.Gherkin.DocString
import LivingDoc.Proofs.Lines

namespace LivingDoc

namespace Gherkin.DocString

open Text

variable {m line : List Char}

theorem common_isPrefix_left (m line : List Char) : common m line <+: m := by
  induction m generalizing line with
  | nil => cases line <;> exact List.nil_prefix
  | cons c m ih =>
    cases line with
    | nil => exact List.prefix_rfl
    | cons d line =>
      rw [common]
      split
      · exact (List.prefix_cons_inj c).mpr (ih line)
      · exact List.nil_prefix

theorem common_isPrefix_right (hm : m.all Unicode.isBlank) (hline : ¬ line.all Unicode.isBlank) :
    common m line <+: line := by
  induction m generalizing line with
  | nil => cases line <;> exact List.nil_prefix
  | cons c m ih =>
    cases line with
    | nil => exact absurd rfl hline
    | cons d line =>
      rw [List.all_cons, Bool.and_eq_true] at hm
      rw [common]
      split
      · next hcd =>
        subst hcd
        rw [List.all_cons, hm.1, Bool.true_and] at hline
        exact (List.prefix_cons_inj c).mpr (ih hm.2 hline)
      · exact List.nil_prefix

theorem all_of_isPrefix {p : Char → Bool} {l r : List Char} (h : l <+: r) (hr : r.all p) :
    l.all p :=
  List.all_eq_true.mpr fun c hc ↦ List.all_eq_true.mp hr c (h.mem hc)

theorem foldl_common_isPrefix (ls : List (List Char)) (m : List Char) :
    ls.foldl common m <+: m := by
  induction ls generalizing m with
  | nil => exact List.prefix_rfl
  | cons l ls ih => exact (ih _).trans (common_isPrefix_left m l)

theorem foldl_common_isPrefix_of_mem {ls : List (List Char)} (hm : m.all Unicode.isBlank)
    (h : line ∈ ls) (hline : ¬ line.all Unicode.isBlank) : ls.foldl common m <+: line := by
  induction ls generalizing m with
  | nil => cases h
  | cons l ls ih =>
    rcases List.mem_cons.mp h with rfl | h
    · exact (foldl_common_isPrefix ls _).trans (common_isPrefix_right hm hline)
    · exact ih (all_of_isPrefix (common_isPrefix_left m l) hm) h

theorem margin_blank (ls : List (List Char)) : (margin ls).all Unicode.isBlank := by
  rw [margin]
  split
  · rfl
  · exact all_of_isPrefix (foldl_common_isPrefix _ _) List.all_takeWhile

theorem margin_isPrefix {ls : List (List Char)} (h : line ∈ ls)
    (hline : ¬ line.all Unicode.isBlank) :
    margin ls <+: line := by
  have hdrop : line ∈ ls.dropWhile (·.all Unicode.isBlank) := by
    rw [← List.takeWhile_append_dropWhile (p := (·.all Unicode.isBlank)) (l := ls)] at h
    exact (List.mem_append.mp h).resolve_left fun h ↦
      hline (List.all_eq_true.mp List.all_takeWhile line h)
  rw [margin]
  split
  · next hnil =>
    rw [hnil] at hdrop
    cases hdrop
  · next l r hcons =>
    rw [hcons] at hdrop
    rcases List.mem_cons.mp hdrop with rfl | hr
    · exact (foldl_common_isPrefix r _).trans (List.takeWhile_prefix _)
    · exact foldl_common_isPrefix_of_mem List.all_takeWhile hr hline

theorem blank_of_flush {ls : List (List Char)} (h : line ∈ ls) (hf : flush (margin ls) line = []) :
    line.all Unicode.isBlank := by
  by_contra hline
  obtain ⟨x, rfl⟩ := margin_isPrefix h hline
  have hprefix : (margin ls).isPrefixOf (margin ls ++ x) :=
    List.isPrefixOf_iff_prefix.mpr (List.prefix_append _ _)
  rw [flush, hprefix, Bool.eq_false_iff.mpr hline, List.drop_left' rfl] at hf
  change x = [] at hf
  subst hf
  exact hline ((List.append_nil _).symm ▸ margin_blank ls)

theorem not_mem_flush {c : Char} (hc : c ∉ line) (m : List Char) : c ∉ flush m line := by
  rw [flush]
  split
  · exact fun h ↦ hc (List.mem_of_mem_drop h)
  · exact List.not_mem_nil

theorem count_dedent (l : List Char) : (dedent l).count '\n' = l.count '\n' := by
  have hflushed : (['\n'].intercalate ((lines l).map (flush (margin (lines l))))).count '\n' =
      (lines l).length - 1 := by
    rw [count_intercalate, List.length_map]
    intro m hm
    obtain ⟨line, hline, rfl⟩ := List.mem_map.mp hm
    exact not_mem_flush (not_mem_of_mem_lines hline) _
  obtain ⟨u, p, rfl, hu, hp⟩ := exists_whole l
  rw [dedent]
  by_cases hne : p = []
  · subst hne
    rw [List.append_nil] at hflushed ⊢
    rcases whole_iff.mp hu with rfl | hlast
    · rfl
    · have hpos : 0 < u.count '\n' := List.count_pos_iff.mpr (List.mem_of_getLast? hlast)
      rw [if_pos hlast, List.count_append, hflushed, length_lines hu, List.count_singleton_self]
      omega
  · have hlast : (u ++ p).getLast? ≠ some '\n' := by
      rw [List.getLast?_append_of_ne_nil _ hne]
      exact fun h ↦ hp (List.mem_of_getLast? h)
    rw [if_neg hlast, hflushed, lines_append_line hu hp hne, List.length_append, length_lines hu,
      List.count_append, List.count_eq_zero.mpr hp]
    simp

/-- Where a text ends in a line feed at the left margin, its last line was blank. -/
theorem blank_of_dedent {l : List Char} (h : (dedent l).getLast? = some '\n') :
    ∃ u p, l = u ++ p ∧ u.getLast? = some '\n' ∧ p.all Unicode.isBlank ∧ '\n' ∉ p := by
  obtain ⟨u, p, rfl, hu, hp⟩ := exists_whole l
  by_cases hne : p = []
  · subst hne
    refine ⟨u, [], rfl, (whole_iff.mp hu).resolve_left ?_, rfl, List.not_mem_nil⟩
    rintro rfl
    cases h
  · have hlast : (u ++ p).getLast? ≠ some '\n' := by
      rw [List.getLast?_append_of_ne_nil _ hne]
      exact fun h ↦ hp (List.mem_of_getLast? h)
    rw [dedent, if_neg hlast, lines_append_line hu hp hne, List.map_append] at h
    obtain ⟨hflush, hu'⟩ := concat_of_intercalate (not_mem_flush hp _) h
    have hmem : p ∈ lines u ++ [p] := List.mem_append_right _ List.mem_cons_self
    refine ⟨u, p, rfl, (whole_iff.mp hu).resolve_left ?_, blank_of_flush hmem hflush, hp⟩
    rintro rfl
    exact hu' rfl

end Gherkin.DocString

end LivingDoc
