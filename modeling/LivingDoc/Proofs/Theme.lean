import LivingDoc.Proofs.Citation

namespace LivingDoc

theorem findRev?_eq_some {α : Type} {q : α → Bool} {l : List α} {a : α}
    (h : l.findRev? q = some a) : q a ∧ ∃ u v, l = u ++ a :: v ∧ ∀ b ∈ v, ¬ q b := by
  rw [List.findRev?_eq_find?_reverse] at h
  obtain ⟨ha, v, u, hl, hv⟩ := List.find?_eq_some_iff_append.mp h
  refine ⟨ha, u.reverse, v.reverse, ?_, fun b hb ↦ ?_⟩
  · rw [← List.reverse_reverse l, hl]
    simp
  · simpa using hv b (List.mem_reverse.mp hb)

namespace Text

open Unicode

theorem trim_cons_of_blank {c : Char} {l : List Char} (h : isBlank c) : trim (c :: l) = trim l := by
  rw [trim, trimStart, List.dropWhile_cons_of_pos h, trim, trimStart]

theorem head?_trim {c : Char} {l : List Char} (h : ¬ isBlank c) :
    (trim (c :: l)).head? = some c := by
  rw [trim, trimStart, List.dropWhile_cons_of_neg h, trimEnd_head? h]

end Text

namespace Citation

open Unicode

def marker : List Char := ['R', 'I', ':']

variable {c : Char} {l m p s w : List Char}

theorem markedIn_eq_none (h : ¬ marker <:+: l) : markedIn l = none := by
  fun_induction markedIn l with
  | case1 => rfl
  | case2 l =>
    have hl : marker <+: 'R' :: 'I' :: ':' :: l := List.prefix_append marker l
    exact absurd hl.isInfix h
  | case3 c l _ ih => exact ih fun hl ↦ h (hl.trans (List.suffix_cons c l).isInfix)

/-- A marker that is the first of its text. -/
theorem markedIn_marker (h : ¬ marker <:+: p) :
    markedIn (p ++ marker ++ l) = (themeAfter l).or (markedIn l) := by
  induction p with
  | nil =>
    have htail : markedIn ('I' :: ':' :: l) = markedIn l := by
      rw [markedIn, markedIn] <;> simp
    rw [List.nil_append, marker, List.cons_append, List.cons_append, List.cons_append,
      List.nil_append, markedIn, Option.orElse_eq_orElse, Option.orElse_eq_or, htail]
  | cons c p ih =>
    have hp : ¬ marker <:+: p := fun hp ↦ h (hp.trans (List.suffix_cons c p).isInfix)
    have hc (k : List Char) (hR : c = 'R') : p ++ marker ++ l ≠ 'I' :: ':' :: k := by
      intro hk
      match p with
      | [] => cases hk
      | [d] => cases hk
      | d :: e :: q =>
        obtain ⟨hd, hk⟩ := List.cons.inj hk
        obtain ⟨he, -⟩ := List.cons.inj hk
        subst hR hd he
        exact h (List.prefix_append marker q).isInfix
    rw [List.cons_append, List.cons_append, markedIn.eq_3 _ _ fun k hR hk ↦ hc k hR hk, ih hp]

theorem markedIn_append_of_not_mem (h : 'R' ∉ l) : markedIn (l ++ s) = markedIn s := by
  induction l with
  | nil => rfl
  | cons c l ih =>
    rw [List.mem_cons, not_or] at h
    rw [List.cons_append, markedIn.eq_3 _ _ fun k hR _ ↦ h.1 hR.symm, ih h.2]

/-- Characters that may not begin a theme are all given back in front of the letter B. -/
theorem themeAfter_eq_none (h : ∀ c ∈ w, c = '(') : themeAfter (w ++ 'B' :: l) = none := by
  induction w with
  | nil => rfl
  | cons c w ih =>
    obtain ⟨rfl, hw⟩ := List.forall_mem_cons.mp h
    rw [List.cons_append, themeAfter, ih hw]
    rfl

theorem themeAfter_append (hw : ∀ c ∈ w, ¬ isWord c) (h : themeAfter l = some m) :
    themeAfter (w ++ l) = some m := by
  induction w with
  | nil => exact h
  | cons c w ih =>
    obtain ⟨hc, hw⟩ := List.forall_mem_cons.mp hw
    rw [List.cons_append, themeAfter, if_neg hc, ih hw]
    rfl

theorem mayOpenTheme_of_not_isWord (hw : ¬ isWord c) (hc : c ≠ '(') : mayOpenTheme c := by
  have hB : c ≠ 'B' := fun h ↦ hw (h ▸ by decide)
  simp [mayOpenTheme, hB, hc]

theorem themeAfter_of_opens (hc : mayOpenTheme c) (h : themeAfter l = none) :
    themeAfter (c :: l) = some (c :: l.takeWhile isThemeChar) := by
  rw [themeAfter, h, ite_self, if_pos hc]
  rfl

theorem themeIn_eq_none_iff : themeIn l = none ↔
    ∀ m, markedIn l = some m → ∀ c, (Text.trim m).head? = some c → mayOpenTheme c = false := by
  rw [themeIn]
  cases markedIn l with
  | none => simp
  | some m => cases h : Text.trim m <;> simp [h]

theorem themeAfter_before_letter {u v : List Char} (hw : ∀ d ∈ u ++ c :: v, ¬ isWord d)
    (hc : c ≠ '(') (hv : ∀ d ∈ v, d = '(') :
    themeAfter (u ++ c :: v ++ 'B' :: l) = some (c :: (v ++ 'B' :: l).takeWhile isThemeChar) := by
  have hopen := mayOpenTheme_of_not_isWord (hw c (by simp)) hc
  rw [List.append_assoc, List.cons_append]
  exact themeAfter_append (fun d hd ↦ hw d (List.mem_append_left _ hd))
    (themeAfter_of_opens hopen (themeAfter_eq_none hv))

theorem head?_trim_of_blank {v : List Char} (hc : isBlank c) (hv : ∀ d ∈ v, d = '(') :
    ∀ d ∈ (Text.trim (c :: (v ++ 'B' :: l).takeWhile isThemeChar)).head?, d = 'B' := by
  rw [Text.trim_cons_of_blank hc]
  cases v with
  | nil =>
    rw [List.nil_append, List.takeWhile_cons_of_pos (by decide), Text.head?_trim (by decide)]
    simp
  | cons e v =>
    obtain ⟨rfl, -⟩ := List.forall_mem_cons.mp hv
    rw [List.cons_append, List.takeWhile_cons_of_neg (by decide)]
    simp [Text.trim, Text.trimStart, Text.trimEnd]

/-- No theme is read in front of the letter B exactly if the last character of the run that is no
bracket is white space, or there is none. -/
theorem themeIn_before_letter (hp : ¬ marker <:+: p) (hw : ∀ c ∈ w, ¬ isWord c)
    (hl : markedIn l = none) : themeIn (p ++ marker ++ (w ++ 'B' :: l)) = none ↔
      (w.findRev? (· ≠ '(')).all isBlank := by
  have hrest : markedIn (w ++ 'B' :: l) = none := by
    have hR : 'R' ∉ w ++ ['B'] := by
      rw [List.mem_append, not_or]
      exact ⟨fun h ↦ hw _ h (by decide), by decide⟩
    have ha := markedIn_append_of_not_mem (s := l) hR
    rwa [List.append_assoc, List.singleton_append, hl] at ha
  rw [themeIn_eq_none_iff, markedIn_marker hp, hrest, Option.or_none]
  cases hf : w.findRev? (· ≠ '(') with
  | none =>
    have hb : ∀ c ∈ w, c = '(' := by simpa [List.findRev?_eq_find?_reverse] using hf
    simp [themeAfter_eq_none hb]
  | some c =>
    obtain ⟨hc, u, v, rfl, hv⟩ := findRev?_eq_some hf
    have hv : ∀ d ∈ v, d = '(' := fun d hd ↦ by simpa using hv d hd
    have hc : c ≠ '(' := of_decide_eq_true hc
    rw [themeAfter_before_letter hw hc hv, Option.all_some]
    simp only [Option.some.injEq, forall_eq']
    by_cases hb : isBlank c
    · refine iff_of_true (fun d hd ↦ ?_) hb
      rw [head?_trim_of_blank hb hv d hd]
      rfl
    · refine iff_of_false (fun h ↦ ?_) hb
      have hopen := mayOpenTheme_of_not_isWord (hw c (by simp)) hc
      rw [h c (Text.head?_trim hb)] at hopen
      cases hopen

/-- Between a marker and a story, in brackets or not, a theme is read exactly if the last character
that is no opening bracket is there and is not white space. -/
theorem theme_before_story {p w d s : String} (hp : ¬ marker <:+: p.toList)
    (hs : ¬ marker <:+: s.toList) (hw : ∀ c ∈ w.toList, ¬ isWord c) (hd : IsStory d) :
    ((ofText (p ++ "RI:" ++ w ++ "(B-" ++ d ++ ")" ++ s)).theme = none ↔
      (w.toList.findRev? (· ≠ '(')).all isBlank) ∧
    ((ofText (p ++ "RI:" ++ w ++ "B-" ++ d ++ " " ++ s)).theme = none ↔
      (w.toList.findRev? (· ≠ '(')).all isBlank) := by
  have hrest (c : Char) (hc : c ≠ 'R') : markedIn ('-' :: d.toList ++ c :: s.toList) = none := by
    have hR : 'R' ∉ '-' :: d.toList ++ [c] := by
      simp only [List.mem_append, List.mem_cons, List.not_mem_nil, or_false, not_or]
      exact ⟨⟨by decide, fun h ↦ absurd (hd.2 _ h) (by decide)⟩, hc.symm⟩
    have ha := markedIn_append_of_not_mem (s := s.toList) hR
    rwa [List.append_assoc, List.singleton_append, markedIn_eq_none hs] at ha
  have hlast : (w.toList ++ ['(']).findRev? (· ≠ '(') = w.toList.findRev? (· ≠ '(') := by
    simp [List.findRev?_eq_find?_reverse]
  have hbracket : ∀ c ∈ w.toList ++ ['('], ¬ isWord c := by
    intro c hc
    rcases List.mem_append.mp hc with hc | hc
    · exact hw c hc
    · rw [List.mem_singleton.mp hc]
      decide
  constructor
  · have hread := themeIn_before_letter hp hbracket (hrest ')' (by decide))
    rw [hlast] at hread
    rw [ofText, Option.map_eq_none_iff, ← hread]
    simp only [String.toList_append, List.append_assoc]
    rfl
  · have hread := themeIn_before_letter hp hw (hrest ' ' (by decide))
    rw [ofText, Option.map_eq_none_iff, ← hread]
    simp only [String.toList_append, List.append_assoc]
    rfl

theorem theme_before_story_blank :
    (¬ marker <:+: "# R".toList ∧ ¬ marker <:+: " again".toList ∧
      (∀ c ∈ ": ((".toList, ¬ isWord c) ∧ IsStory "12") ∧
    (ofText ("# R" ++ "RI:" ++ ": ((" ++ "(B-" ++ "12" ++ ")" ++ " again")).theme = none := by
  have hp : ¬ marker <:+: "# R".toList := by decide
  have hs : ¬ marker <:+: " again".toList := by decide
  have hword : isWord ':' = false ∧ isWord ' ' = false ∧ isWord '(' = false := by decide
  have hw : ∀ c ∈ ": ((".toList, ¬ isWord c := by simpa using hword
  have hd : IsStory "12" := ⟨by decide, List.all_eq_true.mp (by decide)⟩
  exact ⟨⟨hp, hs, hw, hd⟩, (theme_before_story hp hs hw hd).1.mpr (by decide)⟩

/-- Behind a hyphen a story is read as a theme. -/
theorem theme_before_story_hyphen :
    ¬ ∀ p w d s : String, ¬ marker <:+: p.toList → ¬ marker <:+: s.toList →
      (∀ c ∈ w.toList, ¬ isWord c) → IsStory d →
      (ofText (p ++ "RI:" ++ w ++ "(B-" ++ d ++ ")" ++ s)).theme = none ∧
        (ofText (p ++ "RI:" ++ w ++ "B-" ++ d ++ " " ++ s)).theme = none := by
  intro h
  have hword : isWord '-' = false := by decide
  have hw : ∀ c ∈ "-".toList, ¬ isWord c := by simpa using hword
  have hd : IsStory "123" := ⟨by decide, List.all_eq_true.mp (by decide)⟩
  have hnone := (h "" "-" "123" "" (by decide) (by decide) hw hd).2
  have hread : (ofText ("" ++ "RI:" ++ "-" ++ "B-" ++ "123" ++ " " ++ "")).theme =
      some "_B_123" := by decide +kernel
  rw [hread] at hnone
  cases hnone

end Citation

end LivingDoc
