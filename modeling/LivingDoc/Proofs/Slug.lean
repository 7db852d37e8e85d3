import LivingDoc.Slug
import Mathlib.Data.List.Chain

namespace LivingDoc

namespace Unicode

theorem hyphen_not_mem_lowercase {c : Char} (hc : isAlphanumeric c) : '-' ∉ lowercase c := by
  rw [mem_lowercase_iff (by decide)]
  rintro rfl
  exact absurd hc (by decide)

end Unicode

namespace Slug

open Unicode

/-- What the rest of a name adds to its slug, by whether anything has been written of it. -/
def join (started pending : Bool) : List Char → List Char
  | [] => []
  | c :: l =>
    if isBreak c then join started true l
    else if isAlphanumeric c then
      (if started && pending then ['-'] else []) ++ lowercase c ++ join true false l
    else join started pending l

theorem foldl_push (l s : List Char) (pending : Bool) :
    (l.foldl push (s, pending)).1 = s ++ join (!s.isEmpty) pending l := by
  induction l generalizing s pending with
  | nil => exact (List.append_nil s).symm
  | cons c l ih =>
    rw [List.foldl_cons, push, join]
    by_cases hbreak : isBreak c
    · rw [if_pos hbreak, if_pos hbreak, ih]
    · by_cases hkept : isAlphanumeric c
      · rw [if_neg hbreak, if_neg hbreak, if_pos hkept, if_pos hkept, ih]
        have hne (r : List Char) : (!(r ++ lowercase c).isEmpty) = true := by
          simp [lowercase_ne_nil]
        rw [hne]
        by_cases hsep : (pending && !s.isEmpty) = true
        · rw [if_pos hsep, if_pos (by rwa [Bool.and_comm] at hsep)]
          simp
        · rw [if_neg hsep, if_neg (by rwa [Bool.and_comm] at hsep)]
          simp
      · rw [if_neg hbreak, if_neg hbreak, if_neg hkept, if_neg hkept, ih]

def reduced (piece : List Char) : List Char := (piece.filter isAlphanumeric).flatMap lowercase

/-- What the pieces of a name give that give something. -/
def wordsOf (pieces : List (List Char)) : List (List Char) :=
  (pieces.map reduced).filter (!·.isEmpty)

def words (name : List Char) : List (List Char) := wordsOf (name.splitOnP isBreak)

def row (started : Bool) : List (List Char) → List Char
  | [] => []
  | w :: ws => (if started then ['-'] else []) ++ w ++ row true ws

variable {c : Char} {piece w : List Char} {pieces ws : List (List Char)} {started : Bool}

theorem row_false (ws : List (List Char)) : row false ws = ['-'].intercalate ws := by
  cases ws with
  | nil => rfl
  | cons w ws =>
    induction ws generalizing w with
    | nil => simp [row, List.intercalate]
    | cons v ws ih =>
      rw [row, List.intercalate_cons_cons, ← ih v]
      simp [row]

theorem reduced_cons_of_kept (hc : isAlphanumeric c) :
    reduced (c :: piece) = lowercase c ++ reduced piece := by
  rw [reduced, List.filter_cons_of_pos hc, List.flatMap_cons, reduced]

theorem reduced_cons_of_dropped (hc : ¬ isAlphanumeric c) :
    reduced (c :: piece) = reduced piece := by
  rw [reduced, List.filter_cons_of_neg hc, reduced]

theorem wordsOf_cons_of_nil (h : reduced piece = []) :
    wordsOf (piece :: pieces) = wordsOf pieces := by
  rw [wordsOf, List.map_cons, h, List.filter_cons_of_neg (by simp), wordsOf]

theorem wordsOf_cons_of_ne_nil (h : reduced piece ≠ []) :
    wordsOf (piece :: pieces) = reduced piece :: wordsOf pieces := by
  rw [wordsOf, List.map_cons, List.filter_cons_of_pos (by simpa using h), wordsOf]

/-- What is left of a name after its first piece is written as a row of words. While no break has
been read, that piece goes on with the word that was begun before. -/
theorem join_eq (l : List Char) (started : Bool) (hl : l.splitOnP isBreak = piece :: pieces) :
    join started true l = row started (wordsOf (piece :: pieces)) ∧
      join started false l =
        reduced piece ++ row (started || !(reduced piece).isEmpty) (wordsOf pieces) := by
  induction l generalizing piece pieces started with
  | nil =>
    obtain ⟨rfl, rfl⟩ := List.cons.inj hl
    exact ⟨rfl, by cases started <;> rfl⟩
  | cons c l ih =>
    rw [List.splitOnP_cons_eq_if_modifyHead] at hl
    obtain ⟨first, others, hrest⟩ := List.exists_cons_of_ne_nil (List.splitOnP_ne_nil isBreak l)
    rw [hrest, List.modifyHead_cons] at hl
    by_cases hbreak : isBreak c
    · rw [if_pos hbreak] at hl
      obtain ⟨rfl, rfl⟩ := List.cons.inj hl
      have hnil : reduced [] = [] := rfl
      rw [join, join, if_pos hbreak, if_pos hbreak, (ih started hrest).1, wordsOf_cons_of_nil hnil,
        hnil]
      simp
    · rw [if_neg hbreak] at hl
      obtain ⟨rfl, rfl⟩ := List.cons.inj hl
      by_cases hkept : isAlphanumeric c
      · have hne : reduced (c :: first) ≠ [] := by
          rw [reduced_cons_of_kept hkept]
          exact List.append_ne_nil_of_left_ne_nil (lowercase_ne_nil c) _
        have hflag : (reduced (c :: first)).isEmpty = false := List.isEmpty_eq_false_iff.mpr hne
        rw [join, join, if_neg hbreak, if_neg hbreak, if_pos hkept, if_pos hkept, (ih true hrest).2,
          wordsOf_cons_of_ne_nil hne, hflag, row, reduced_cons_of_kept hkept]
        cases started <;> simp
      · rw [join, join, if_neg hbreak, if_neg hbreak, if_neg hkept, if_neg hkept,
          (ih started hrest).1,
          (ih started hrest).2, reduced_cons_of_dropped hkept, wordsOf, wordsOf, List.map_cons,
          List.map_cons, reduced_cons_of_dropped hkept]
        exact ⟨rfl, rfl⟩

theorem join_start (l : List Char) : join false false l = ['-'].intercalate (words l) := by
  obtain ⟨piece, pieces, hl⟩ := List.exists_cons_of_ne_nil (List.splitOnP_ne_nil isBreak l)
  rw [(join_eq l false hl).2, words, hl, ← row_false]
  by_cases h : reduced piece = []
  · rw [wordsOf_cons_of_nil h, h]
    rfl
  · rw [wordsOf_cons_of_ne_nil h, row, List.isEmpty_eq_false_iff.mpr h]
    rfl

theorem ne_nil_of_mem_words {name : List Char} (h : w ∈ words name) : w ≠ [] := by
  simpa using (List.mem_filter.mp h).2

theorem hyphen_not_mem_words {name : List Char} (h : w ∈ words name) : '-' ∉ w := by
  obtain ⟨piece, -, rfl⟩ := List.mem_map.mp (List.mem_filter.mp h).1
  intro hmem
  obtain ⟨c, hc, hlower⟩ := List.mem_flatMap.mp hmem
  exact hyphen_not_mem_lowercase (List.mem_filter.mp hc).2 hlower

/-- A text that neither begins nor ends with a hyphen, and in which no two hyphens are neighbours.
-/
structure Apart (l : List Char) : Prop where
  first : l.head? ≠ some '-'
  last : l.getLast? ≠ some '-'
  single : l.IsChain fun a b ↦ ¬ (a = '-' ∧ b = '-')

theorem apart_of_not_mem (hw : '-' ∉ w) : Apart w where
  first h := hw (List.mem_of_head? h)
  last h := hw (List.mem_of_getLast? h)
  single := by
    refine (List.pairwise_of_forall_mem_list fun a ha b _ ↦ ?_).isChain
    exact fun h ↦ hw (h.1 ▸ ha)

theorem Apart.append {l : List Char} (hw : '-' ∉ w) (hne : w ≠ []) (hl : Apart l) (hlne : l ≠ []) :
    Apart (w ++ '-' :: l) := by
  obtain ⟨c, l, rfl⟩ := List.exists_cons_of_ne_nil hlne
  have hc : c ≠ '-' := fun h ↦ hl.first (congrArg some h)
  have hw' := apart_of_not_mem hw
  refine ⟨?_, ?_, ?_⟩
  · rw [List.head?_append_of_ne_nil w hne]
    exact hw'.first
  · rw [List.getLast?_append, List.getLast?_cons_cons, List.getLast?_cons, Option.some_or,
      ← List.getLast?_cons]
    exact hl.last
  · rw [List.isChain_append, List.isChain_cons_cons]
    refine ⟨hw'.single, ⟨fun h ↦ hc h.2, hl.single⟩, fun a ha b _ h ↦ ?_⟩
    exact hw (h.1 ▸ List.mem_of_getLast? ha)

theorem apart_intercalate (h : ∀ w ∈ ws, w ≠ [] ∧ '-' ∉ w) : Apart (['-'].intercalate ws) := by
  cases ws with
  | nil => exact apart_of_not_mem List.not_mem_nil
  | cons w ws =>
    induction ws generalizing w with
    | nil =>
      rw [List.intercalate_singleton]
      exact apart_of_not_mem (h w List.mem_cons_self).2
    | cons v ws ih =>
      obtain ⟨⟨hne, hw⟩, hws⟩ := List.forall_mem_cons.mp h
      have hv : v ≠ [] := (hws v List.mem_cons_self).1
      have hrest : ['-'].intercalate (v :: ws) ≠ [] := by
        rw [← row_false, row]
        simp [hv]
      rw [List.intercalate_cons_cons, List.append_assoc, List.singleton_append]
      exact (ih v hws).append hw hne hrest

end Slug

theorem toList_slug (name : String) : (slug name).toList = Slug.join false false name.toList := by
  rw [slug, String.toList_ofList, Slug.foldl_push]
  rfl

/-- The slug of a name is made of its words, which single hyphens join; it begins and ends with
none. -/
theorem slug_words (name : String) :
    (slug name).toList = ['-'].intercalate (Slug.words name.toList) ∧
      Slug.Apart (slug name).toList := by
  have hslug : (slug name).toList = ['-'].intercalate (Slug.words name.toList) := by
    rw [toList_slug, Slug.join_start]
  refine ⟨hslug, ?_⟩
  rw [hslug]
  exact Slug.apart_intercalate fun w hw ↦
    ⟨Slug.ne_nil_of_mem_words hw, Slug.hyphen_not_mem_words hw⟩

example : slug "- (A) $ (b-C'D) Été --" = "a-b-cd-été" := by decide +kernel

end LivingDoc
