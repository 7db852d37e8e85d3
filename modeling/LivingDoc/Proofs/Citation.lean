import LivingDoc.Citation

namespace LivingDoc

namespace Text

open Unicode

theorem trim_sublist (l : List Char) : (trim l).Sublist l := by
  have h : (trimEnd (trimStart l)).Sublist (trimStart l) := by
    have hd := (List.dropWhile_sublist isBlank (l := (trimStart l).reverse)).reverse
    simpa only [trimEnd, List.reverse_reverse] using hd
  exact h.trans (List.dropWhile_sublist isBlank)

theorem trimEnd_head? {c : Char} {l : List Char} (h : ¬ isBlank c) :
    (trimEnd (c :: l)).head? = some c := by
  rw [trimEnd, List.head?_reverse, List.reverse_cons, List.dropWhile_append]
  split
  · simp [h]
  · simp

theorem not_isBlank_of_trim {c : Char} {l r : List Char} (h : trim l = c :: r) : ¬ isBlank c := by
  rw [trim] at h
  cases hs : trimStart l with
  | nil => simp [hs, trimEnd] at h
  | cons d k =>
    have hd : ¬ isBlank d := by
      have hn := List.head?_dropWhile_not isBlank l
      rw [trimStart] at hs
      simpa [hs] using hn
    have hc := trimEnd_head? (l := k) hd
    rw [← hs, h] at hc
    simp only [List.head?_cons, Option.some.injEq] at hc
    exact hc ▸ hd

end Text

namespace Citation

open Unicode

/-- The numbers of stories: digits of any script, and at least one. -/
def IsStory (s : String) : Prop := s.toList ≠ [] ∧ ∀ c ∈ s.toList, isDecimalDigit c

/-- The numbers of themes as they stand in tags. -/
def IsTheme (s : String) : Prop :=
  ∃ c l, s.toList = c :: l ∧ c ≠ 'B' ∧ c ≠ '(' ∧ c ≠ '-' ∧ ¬ isBlank c ∧
    ∀ d ∈ l, d.isAlphanum ∨ d = '_'

def IsThemeTag (t : String) : Prop := ∃ theme, IsTheme theme ∧ t = "@T_" ++ theme

def IsStoryTag (t : String) : Prop := ∃ story, IsStory story ∧ t = "@B_" ++ story

theorem storyAt_eq_some {l d : List Char} (h : storyAt l = some d) :
    d ≠ [] ∧ ∀ c ∈ d, isDecimalDigit c := by
  unfold storyAt at h
  split at h
  · dsimp only at h
    split at h
    · next hc =>
      obtain rfl := Option.some.inj h
      simp only [Bool.and_eq_true, Bool.not_eq_true', List.isEmpty_eq_false_iff] at hc
      exact ⟨hc.1.2, fun c hm ↦ List.all_eq_true.mp List.all_takeWhile c hm⟩
    · cases h
  · cases h

theorem storyIn_eq_some {l d : List Char} (h : storyIn l = some d) :
    d ≠ [] ∧ ∀ c ∈ d, isDecimalDigit c := by
  induction l with
  | nil => cases h
  | cons c l ih =>
    rw [storyIn, Option.orElse_eq_orElse, Option.orElse_eq_or, Option.or_eq_some_iff] at h
    rcases h with h | ⟨-, h⟩
    · exact storyAt_eq_some h
    · exact ih h

theorem themeAfter_eq_some {l m : List Char} (h : themeAfter l = some m) :
    ∃ c r, m = c :: r ∧ ∀ d ∈ r, isThemeChar d := by
  induction l with
  | nil => cases h
  | cons c l ih =>
    rw [themeAfter, Option.orElse_eq_orElse, Option.orElse_eq_or, Option.or_eq_some_iff] at h
    rcases h with h | ⟨-, h⟩
    · split at h
      · cases h
      · exact ih h
    · split at h
      · obtain rfl := Option.some.inj h
        exact ⟨c, _, rfl, fun d hd ↦ List.all_eq_true.mp List.all_takeWhile d hd⟩
      · cases h

theorem markedIn_eq_some {l m : List Char} (h : markedIn l = some m) :
    ∃ c r, m = c :: r ∧ ∀ d ∈ r, isThemeChar d := by
  fun_induction markedIn l with
  | case1 => cases h
  | case2 l ih =>
    rw [Option.orElse_eq_orElse, Option.orElse_eq_or, Option.or_eq_some_iff] at h
    rcases h with h | ⟨-, h⟩
    · exact themeAfter_eq_some h
    · exact ih h
  | case3 c l _ ih => exact ih h

theorem themeIn_eq_some {l t : List Char} (h : themeIn l = some t) : IsTheme (.ofList t) := by
  unfold themeIn at h
  split at h
  · next c r hm =>
    obtain ⟨m, hm, htrim⟩ := Option.map_eq_some_iff.mp hm
    obtain ⟨d, k, rfl, hk⟩ := markedIn_eq_some hm
    have hr : r.Sublist k := by simpa [htrim] using (Text.trim_sublist (d :: k)).tail
    split at h
    · next hc =>
      obtain rfl := Option.some.inj h
      simp only [mayOpenTheme, Bool.and_eq_true, decide_eq_true_eq] at hc
      have hb := Text.not_isBlank_of_trim htrim
      refine ⟨if c = '-' then '_' else c, r.map fun c ↦ if c = '-' then '_' else c, by simp, ?_⟩
      have htail : ∀ d ∈ r.map fun c ↦ if c = '-' then '_' else c, d.isAlphanum ∨ d = '_' := by
        intro d hd
        obtain ⟨e, he, rfl⟩ := List.mem_map.mp hd
        have hte := hk e (hr.subset he)
        simp only [isThemeChar, Bool.or_eq_true, decide_eq_true_eq] at hte
        by_cases hdash : e = '-'
        · exact .inr (if_pos hdash)
        · rw [if_neg hdash]
          exact .inl (hte.resolve_right hdash)
      by_cases hdash : c = '-'
      · rw [if_pos hdash]
        exact ⟨by decide, by decide, by decide, by decide, htail⟩
      · rw [if_neg hdash]
        exact ⟨hc.1, hc.2, hdash, hb, htail⟩
    · cases h
  · cases h

theorem isTheme_of_ofText {text theme : String} (h : (ofText text).theme = some theme) :
    IsTheme theme := by
  obtain ⟨l, hl, rfl⟩ := Option.map_eq_some_iff.mp h
  exact themeIn_eq_some hl

theorem isStory_of_ofText {text story : String} (h : (ofText text).story = some story) :
    IsStory story := by
  obtain ⟨l, hl, rfl⟩ := Option.map_eq_some_iff.mp h
  simpa only [IsStory, String.toList_ofList] using storyIn_eq_some hl

theorem themeTag_ne_storyTag (theme story : String) : "@T_" ++ theme ≠ "@B_" ++ story := by
  intro h
  have hl := congrArg String.toList h
  simp only [String.toList_append] at hl
  exact absurd (List.cons.inj (List.cons.inj hl).2).1 (by decide)

theorem formerTag_not_derived {story tag : String} (hs : IsStory story)
    (ht : IsThemeTag tag ∨ IsStoryTag tag) : "@B" ++ story ≠ tag := by
  intro h
  have hl := congrArg String.toList h
  rcases ht with ⟨theme, -, rfl⟩ | ⟨other, -, rfl⟩
  · simp only [String.toList_append] at hl
    exact absurd (List.cons.inj (List.cons.inj hl).2).1 (by decide)
  · simp only [String.toList_append] at hl
    have hd : story.toList = '_' :: other.toList := (List.cons.inj (List.cons.inj hl).2).2
    have hu := hs.2 '_' (by rw [hd]; exact List.mem_cons_self)
    exact absurd hu (by decide)

end Citation

end LivingDoc
