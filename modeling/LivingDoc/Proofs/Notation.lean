import LivingDoc.Proofs.Theme
import Mathlib.Data.List.Infix
import Mathlib.Order.Bounds.Basic

namespace LivingDoc

theorem findSome?_tails_eq_some_iff {α β : Type} {f : List α → Option β} {l : List α} {b : β} :
    l.tails.findSome? f = some b ↔
      ∃ i, f (l.drop i) = some b ∧ ∀ j < i, f (l.drop j) = none := by
  induction l with
  | nil =>
    rw [List.tails, List.findSome?_singleton]
    exact ⟨fun h ↦ ⟨0, h, nofun⟩, fun ⟨i, h, _⟩ ↦ by rwa [List.drop_nil] at h⟩
  | cons a l ih =>
    rw [List.tails_cons, List.findSome?_cons]
    cases ha : f (a :: l) with
    | some c =>
      refine ⟨fun h ↦ ⟨0, ha.trans h, nofun⟩, fun ⟨i, h, hlt⟩ ↦ ?_⟩
      cases i with
      | zero => exact ha.symm.trans h
      | succ i =>
        have hnone : f (a :: l) = none := hlt 0 (Nat.succ_pos i)
        rw [ha] at hnone
        cases hnone
    | none =>
      refine ih.trans ⟨fun ⟨i, h, hlt⟩ ↦ ⟨i + 1, h, fun j hj ↦ ?_⟩, fun ⟨i, h, hlt⟩ ↦ ?_⟩
      · cases j with
        | zero => exact ha
        | succ j => exact hlt j (Nat.lt_of_succ_lt_succ hj)
      · cases i with
        | zero => cases ha.symm.trans h
        | succ i => exact ⟨i, h, fun j hj ↦ hlt (j + 1) (Nat.succ_lt_succ hj)⟩

theorem findSome?_tails_eq_none_iff {α β : Type} {f : List α → Option β} {l : List α} :
    l.tails.findSome? f = none ↔ ∀ i, f (l.drop i) = none := by
  rw [List.findSome?_eq_none_iff]
  refine ⟨fun h i ↦ h _ ((List.mem_tails _ _).mpr (List.drop_suffix i l)), fun h s hs ↦ ?_⟩
  rw [List.suffix_iff_eq_drop.mp ((List.mem_tails _ _).mp hs)]
  exact h _

namespace Citation

open Unicode

/-- A text that names the story `d` behind the text `p`. -/
def Cites (text p d : String) : Prop :=
  IsStory d ∧ ∃ c s : String, (c = "-" ∨ c = "_") ∧ text = p ++ "(B" ++ c ++ d ++ ")" ++ s

theorem storyIn_eq (l : List Char) : storyIn l = l.tails.findSome? storyAt := by
  induction l with
  | nil => rfl
  | cons c l ih =>
    rw [storyIn, List.tails_cons, List.findSome?_cons, ih]
    cases storyAt (c :: l) <;> rfl

theorem storyAt_eq_some_iff {l d : List Char} : storyAt l = some d ↔
    (d ≠ [] ∧ ∀ c ∈ d, isDecimalDigit c) ∧
      ∃ c s, (c = '-' ∨ c = '_') ∧ l = '(' :: 'B' :: c :: (d ++ ')' :: s) := by
  constructor
  · intro h
    refine ⟨storyAt_eq_some h, ?_⟩
    unfold storyAt at h
    split at h
    · next c l =>
      dsimp only at h
      split at h
      · next hc =>
        simp only [Bool.and_eq_true, Bool.or_eq_true, decide_eq_true_eq] at hc
        obtain ⟨s, hs⟩ := List.head?_eq_some_iff.mp hc.2
        refine ⟨c, s, hc.1.1, ?_⟩
        rw [← Option.some.inj h, ← hs, List.takeWhile_append_dropWhile]
      · cases h
    · cases h
  · rintro ⟨⟨hne, hd⟩, c, s, hc, rfl⟩
    have hstop : ¬ isDecimalDigit ')' := by decide
    have htake : (d ++ ')' :: s).takeWhile isDecimalDigit = d := by
      rw [List.takeWhile_append_of_pos hd, List.takeWhile_cons_of_neg hstop, List.append_nil]
    have hdrop : (d ++ ')' :: s).dropWhile isDecimalDigit = ')' :: s := by
      rw [List.dropWhile_append_of_pos hd, List.dropWhile_cons_of_neg hstop]
    simp [storyAt, htake, hdrop, hc, hne]

theorem cites_iff {text p d : String} : Cites text p d ↔
    p.toList <+: text.toList ∧ storyAt (text.toList.drop p.length) = some d.toList := by
  rw [storyAt_eq_some_iff, ← String.length_toList]
  constructor
  · rintro ⟨hd, c, s, hc, rfl⟩
    simp only [String.toList_append, List.append_assoc, List.prefix_append, List.drop_left,
      true_and]
    refine ⟨hd, ?_⟩
    rcases hc with rfl | rfl
    · exact ⟨'-', s.toList, .inl rfl, rfl⟩
    · exact ⟨'_', s.toList, .inr rfl, rfl⟩
  · rintro ⟨⟨l, hl⟩, hd, c, s, hc, hs⟩
    rw [← hl, List.drop_left] at hs
    refine ⟨hd, .ofList [c], .ofList s, ?_, ?_⟩
    · rcases hc with rfl | rfl
      · exact .inl rfl
      · exact .inr rfl
    · rw [← String.toList_inj, ← hl, hs]
      simp

theorem cites_take {text : String} {i : Nat} {d : List Char}
    (h : storyAt (text.toList.drop i) = some d) :
    Cites text (.ofList (text.toList.take i)) (.ofList d) ∧
      (String.ofList (text.toList.take i)).length = i := by
  have hi : i ≤ text.toList.length := by
    by_contra hi
    rw [List.drop_eq_nil_of_le (by omega)] at h
    cases h
  have hlength : (String.ofList (text.toList.take i)).length = i := by
    rw [String.length_ofList, List.length_take_of_le hi]
  refine ⟨cites_iff.mpr ⟨?_, ?_⟩, hlength⟩
  · rw [String.toList_ofList]
    exact List.take_prefix i _
  · rw [hlength, h, String.toList_ofList]

theorem storyAt_eq_none_iff {text : String} {i : Nat} :
    storyAt (text.toList.drop i) = none ↔ ∀ p d, Cites text p d → p.length ≠ i := by
  constructor
  · rintro hnone p d hp rfl
    rw [(cites_iff.mp hp).2] at hnone
    cases hnone
  · intro h
    by_contra hsome
    obtain ⟨d, hd⟩ := Option.ne_none_iff_exists'.mp hsome
    obtain ⟨hp, hlength⟩ := cites_take hd
    exact h _ _ hp hlength

theorem story_ofText {text d : String} :
    (ofText text).story = some d ↔ storyIn text.toList = some d.toList := by
  rw [ofText, Option.map_eq_some_iff]
  constructor
  · rintro ⟨l, hl, rfl⟩
    rwa [String.toList_ofList]
  · intro h
    exact ⟨_, h, String.ofList_toList⟩

/-- The story of a text is the one that is named behind the shortest text, and a text has none
exactly if it names none. -/
theorem story_eq_some_iff (text : String) :
    (∀ d, (ofText text).story = some d ↔
      ∃ p, Cites text p d ∧ ∀ q e, Cites text q e → p.length ≤ q.length) ∧
    ((ofText text).story = none ↔ ¬ ∃ p d, Cites text p d) := by
  constructor
  · intro d
    rw [story_ofText, storyIn_eq, findSome?_tails_eq_some_iff]
    constructor
    · rintro ⟨i, hi, hlt⟩
      obtain ⟨hp, hlength⟩ := cites_take hi
      rw [String.ofList_toList] at hp
      refine ⟨_, hp, fun q e hq ↦ ?_⟩
      by_contra hle
      exact storyAt_eq_none_iff.mp (hlt _ (by omega)) q e hq rfl
    · rintro ⟨p, hp, hle⟩
      refine ⟨p.length, (cites_iff.mp hp).2, fun j hj ↦ storyAt_eq_none_iff.mpr ?_⟩
      intro q e hq hqj
      have hpq := hle q e hq
      omega
  · rw [ofText, Option.map_eq_none_iff, storyIn_eq, findSome?_tails_eq_none_iff]
    simp only [storyAt_eq_none_iff]
    constructor
    · rintro h ⟨p, d, hp⟩
      exact h p.length p d hp rfl
    · intro h i p d hp _
      exact h ⟨p, d, hp⟩

/-- A bracket that is opened again, and digits of two scripts. -/
example : (ofText "(B-1(B-)(B_٣7)").story = some "٣7" := by decide +kernel

/-- A theme may begin `n` characters behind a marker that `u` follows: behind non-word characters
only, and neither with a letter B nor with an opening bracket. -/
def Opens (u : List Char) (n : Nat) : Prop :=
  n ≤ (u.takeWhile fun c ↦ !isWord c).length ∧ ∃ c, u[n]? = some c ∧ c ≠ 'B' ∧ c ≠ '('

/-- A marker that a theme may follow stands at the place `i` of a text. -/
def Marks (l : List Char) (i : Nat) : Prop := ∃ u, l.drop i = marker ++ u ∧ ∃ n, Opens u n

/-- What is read behind a marker that stands at the very start of a text. -/
def markedAt : List Char → Option (List Char)
  | 'R' :: 'I' :: ':' :: u => themeAfter u
  | _ => none

variable {n : Nat} {u : List Char}

theorem opens_zero : Opens (c :: u) 0 ↔ mayOpenTheme c := by simp [Opens, mayOpenTheme]

theorem opens_succ : Opens (c :: u) (n + 1) ↔ isWord c = false ∧ Opens u n := by
  rw [Opens, Opens, List.takeWhile_cons]
  cases hc : isWord c <;> simp

theorem themeAfter_eq_none_iff : themeAfter u = none ↔ ∀ n, ¬ Opens u n := by
  induction u with
  | nil => simp [themeAfter, Opens]
  | cons c u ih =>
    rw [themeAfter, Option.orElse_eq_orElse, Option.orElse_eq_or, Option.or_eq_none_iff]
    constructor
    · rintro ⟨hrest, hhere⟩ n
      cases n with
      | zero =>
        rw [opens_zero]
        exact fun hc ↦ by simp [hc] at hhere
      | succ n =>
        rw [opens_succ]
        rintro ⟨hc, hn⟩
        rw [hc, if_neg Bool.false_ne_true] at hrest
        exact ih.mp hrest n hn
    · intro h
      have hc := h 0
      rw [opens_zero] at hc
      refine ⟨?_, if_neg hc⟩
      cases hw : isWord c with
      | true => rfl
      | false => exact ih.mpr fun n hn ↦ h (n + 1) (opens_succ.mpr ⟨hw, hn⟩)

/-- The search goes on behind a character before the character itself is tried, so the greatest of
the places where a theme may begin is found. -/
theorem themeAfter_greatest (h : themeAfter u = some m) :
    ∃ n c, IsGreatest {n | Opens u n} n ∧ u[n]? = some c ∧
      m = c :: (u.drop (n + 1)).takeWhile isThemeChar := by
  induction u with
  | nil => cases h
  | cons c u ih =>
    rw [themeAfter, Option.orElse_eq_orElse, Option.orElse_eq_or, Option.or_eq_some_iff] at h
    rcases h with h | ⟨hnone, h⟩
    · cases hw : isWord c with
      | true => simp [hw] at h
      | false =>
        rw [hw, if_neg Bool.false_ne_true] at h
        obtain ⟨n, d, ⟨hn, hmax⟩, hd, rfl⟩ := ih h
        refine ⟨n + 1, d, ⟨opens_succ.mpr ⟨hw, hn⟩, fun k hk ↦ ?_⟩, hd, rfl⟩
        cases k with
        | zero => exact Nat.zero_le _
        | succ k => exact Nat.succ_le_succ (hmax (opens_succ.mp hk).2)
    · split at h
      · next hc =>
        refine ⟨0, c, ⟨opens_zero.mpr hc, fun k hk ↦ ?_⟩, rfl, (Option.some.inj h).symm⟩
        cases k with
        | zero => exact Nat.le_refl 0
        | succ k =>
          obtain ⟨hw, hk⟩ := opens_succ.mp hk
          rw [hw, if_neg Bool.false_ne_true] at hnone
          exact absurd hk (themeAfter_eq_none_iff.mp hnone k)
      · cases h

theorem markedAt_eq_some_iff : markedAt l = some m ↔
    ∃ u, l = marker ++ u ∧ themeAfter u = some m := by
  constructor
  · intro h
    unfold markedAt at h
    split at h
    · next u => exact ⟨u, rfl, h⟩
    · cases h
  · rintro ⟨u, rfl, h⟩
    exact h

theorem markedIn_eq (l : List Char) : markedIn l = l.tails.findSome? markedAt := by
  fun_induction markedIn l with
  | case1 => rfl
  | case2 u ih =>
    rw [List.tails_cons, List.findSome?_cons, ← ih, markedAt]
    cases themeAfter u <;> rfl
  | case3 c l h ih =>
    have hnone : markedAt (c :: l) = none := by
      unfold markedAt
      split
      · next u hu =>
        obtain ⟨rfl, rfl⟩ := List.cons.inj hu
        exact absurd rfl (h u rfl)
      · rfl
    rw [List.tails_cons, List.findSome?_cons, hnone, ih]

theorem marks_iff {i : Nat} : Marks l i ↔ markedAt (l.drop i) ≠ none := by
  rw [Option.ne_none_iff_exists']
  simp only [markedAt_eq_some_iff]
  constructor
  · rintro ⟨u, hu, n, hn⟩
    have hne : themeAfter u ≠ none := fun h ↦ themeAfter_eq_none_iff.mp h n hn
    obtain ⟨m, hm⟩ := Option.ne_none_iff_exists'.mp hne
    exact ⟨m, u, hu, hm⟩
  · rintro ⟨m, u, hu, hm⟩
    obtain ⟨n, -, hn, -⟩ := themeAfter_greatest hm
    exact ⟨u, hu, n, hn.1⟩

theorem markedIn_cases (l : List Char) :
    (∀ i, ¬ Marks l i) ∧ markedIn l = none ∨
      ∃ i u n c, IsLeast {i | Marks l i} i ∧ l.drop i = marker ++ u ∧
        IsGreatest {n | Opens u n} n ∧ u[n]? = some c ∧
        markedIn l = some (c :: (u.drop (n + 1)).takeWhile isThemeChar) := by
  rw [markedIn_eq]
  cases h : l.tails.findSome? markedAt with
  | none =>
    rw [findSome?_tails_eq_none_iff] at h
    exact .inl ⟨fun i hi ↦ marks_iff.mp hi (h i), rfl⟩
  | some m =>
    obtain ⟨i, hi, hlt⟩ := findSome?_tails_eq_some_iff.mp h
    obtain ⟨u, hu, hm⟩ := markedAt_eq_some_iff.mp hi
    obtain ⟨n, c, hn, hc, rfl⟩ := themeAfter_greatest hm
    refine .inr ⟨i, u, n, c, ⟨⟨u, hu, n, hn.1⟩, fun j hj ↦ ?_⟩, hu, hn, hc, rfl⟩
    by_contra hji
    exact marks_iff.mp hj (hlt j (Nat.not_le.mp hji))

theorem themeIn_eq (l : List Char) : themeIn l = ((markedIn l).map Text.trim).bind fun m ↦
    if m.head? ∈ [none, some 'B', some '('] then none
    else some (m.map fun c ↦ if c = '-' then '_' else c) := by
  rw [themeIn]
  cases (markedIn l).map Text.trim with
  | none => rfl
  | some m =>
    cases m with
    | nil => rfl
    | cons c m =>
      simp only [Option.bind_some, List.head?_cons, mayOpenTheme]
      by_cases hB : c = 'B'
      · simp [hB]
      · by_cases hb : c = '('
        · simp [hb]
        · simp [hB, hb]

/-- The theme of a text: no theme where no marker may be followed by one, and else what the leftmost
of them is followed by. -/
theorem theme_marked (text : String) :
    ((∀ i, ¬ Marks text.toList i) ∧ (ofText text).theme = none ∨
      ∃ i u n c m, IsLeast {i | Marks text.toList i} i ∧ text.toList.drop i = marker ++ u ∧
        IsGreatest {n | Opens u n} n ∧ u[n]? = some c ∧
        m = Text.trim (c :: (u.drop (n + 1)).takeWhile fun c ↦ c.isAlphanum || c = '-') ∧
        (ofText text).theme = if m.head? ∈ [none, some 'B', some '('] then none
          else some (.ofList (m.map fun c ↦ if c = '-' then '_' else c))) ∧
    ∀ theme ∈ (ofText text).theme, IsTheme theme := by
  refine ⟨?_, fun theme h ↦ isTheme_of_ofText h⟩
  rw [ofText, themeIn_eq]
  dsimp only
  rcases markedIn_cases text.toList with ⟨hnot, hnone⟩ | ⟨i, u, n, c, hi, hu, hn, hc, hm⟩
  · exact .inl ⟨hnot, by rw [hnone]; rfl⟩
  · refine .inr ⟨i, u, n, c, _, hi, hu, hn, hc, rfl, ?_⟩
    rw [hm, Option.map_some, Option.bind_some]
    exact apply_ite (Option.map String.ofList) _ none _

theorem theme_marked_second :
    (ofText "RI:B RI:(7-1").theme = some "7_1" ∧ IsTheme "7_1" := by
  have htheme : (ofText "RI:B RI:(7-1").theme = some "7_1" := by decide +kernel
  exact ⟨htheme, (theme_marked _).2 _ htheme⟩

end Citation

end LivingDoc
