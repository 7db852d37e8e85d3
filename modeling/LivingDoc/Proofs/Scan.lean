import LivingDoc.Gherkin.Comments
import LivingDoc.Gherkin.Header
import LivingDoc.Proofs.Lines

namespace LivingDoc

namespace Gherkin

open Text

namespace DocString

theorem mem_of_fenceOf {line fence : List Char} (h : fenceOf line = some fence) :
    fence ∈ [quotes, ticks] := List.mem_of_find?_eq_some h

theorem isPrefixOf_of_fenceOf {line fence : List Char} (h : fenceOf line = some fence) :
    fence.isPrefixOf (trimStart line) = true := by
  have hp := List.find?_some h
  exact hp

theorem not_isPrefixOf_hash {fence : List Char} (h : fence ∈ [quotes, ticks]) (l : List Char) :
    fence.isPrefixOf ('#' :: l) = false := by
  simp only [List.mem_cons, List.not_mem_nil, or_false] at h
  rcases h with rfl | rfl <;> rfl

theorem fenceOf_of_blank {line : List Char} (h : line.all Unicode.isBlank) :
    fenceOf line = none := by
  rw [fenceOf, trimStart_eq_nil h]
  rfl

theorem fenceOf_hash {line l : List Char} (h : trimStart line = '#' :: l) :
    fenceOf line = none := by
  rw [fenceOf, h]
  rfl

end DocString

namespace Comment

open DocString

def down (c : Comment) : Comment := { c with position := ⟨c.position.line + 1, c.position.column⟩ }

def fenceAfter (fence : Option (List Char)) (line : List Char) : Option (List Char) :=
  match fence with
  | none => DocString.fenceOf line
  | some fence => if fence.isPrefixOf (trimStart line) then none else some fence

def fenceBelow (fence : Option (List Char)) (l : List (List Char)) : Option (List Char) :=
  l.foldl fenceAfter fence

variable {header : Option Nat} {fence : Option (List Char)} {number : Nat} {c : Comment}
  {l m : List (List Char)} {line : List Char}

theorem ofLine?_append {w : List Char} (hw : w.all Unicode.isBlank) (number : Nat) (l : List Char) :
    ofLine? number (w ++ '#' :: l) =
      some ⟨.ofList (trimEnd ('#' :: l)), ⟨number, w.length + 1⟩⟩ := by
  have hhash : Unicode.isBlank '#' = false := by decide
  rw [ofLine?, trimStart_blank_append hw hhash, takeWhile_blank_append hw hhash]
  rfl

theorem ofLine?_eq_some_iff : ofLine? number line = some c ↔
    ∃ w l : List Char, w.all Unicode.isBlank ∧ line = w ++ '#' :: l ∧
      c = ⟨.ofList (trim line), ⟨number, w.length + 1⟩⟩ := by
  have hsome {w : List Char} (hw : w.all Unicode.isBlank) (l : List Char) :
      ofLine? number (w ++ '#' :: l) =
        some ⟨.ofList (trim (w ++ '#' :: l)), ⟨number, w.length + 1⟩⟩ := by
    rw [ofLine?_append hw, trim, trimStart_blank_append hw (by decide)]
  constructor
  · intro h
    have hhash : ∃ l, trimStart line = '#' :: l := by
      unfold ofLine? at h
      split at h
      · next l hl => exact ⟨l, hl⟩
      · cases h
    obtain ⟨l, hl⟩ := hhash
    obtain ⟨-, w, hw, rfl⟩ := trimStart_eq_cons_iff.mp hl
    rw [hsome hw] at h
    exact ⟨w, l, hw, rfl, (Option.some.inj h).symm⟩
  · rintro ⟨w, l, hw, rfl, rfl⟩
    exact hsome hw l

theorem ofLine?_of_fence {f : List Char} (hf : fenceOf line = some f) :
    ofLine? number line = none := by
  by_contra hne
  obtain ⟨c, hc⟩ := Option.ne_none_iff_exists'.mp hne
  obtain ⟨w, l, hw, rfl, -⟩ := ofLine?_eq_some_iff.mp hc
  rw [fenceOf_hash (trimStart_blank_append hw (by decide) l)] at hf
  cases hf

theorem ofLine?_succ (number : Nat) (line : List Char) :
    ofLine? (number + 1) line = (ofLine? number line).map down := by
  rw [ofLine?, ofLine?]
  split <;> rfl

theorem among_nil : among header fence number [] = [] := by cases fence <;> rfl

/-- One step of the search: a line that begins with a fence is no comment, so only the fence that is
open above it counts. -/
theorem among_cons : among header fence number (line :: l) =
    (if fence = none ∧ header ≠ some number then (ofLine? number line).toList else []) ++
      among header (fenceAfter fence line) (number + 1) l := by
  cases fence with
  | some f =>
    rw [if_neg (fun h : some f = none ∧ _ ↦ nomatch h.1), List.nil_append]
    rfl
  | none =>
    rw [among, fenceAfter]
    cases hf : fenceOf line with
    | none =>
      dsimp only
      by_cases hh : header = some number <;> simp [hh]
    | some f => simp [ofLine?_of_fence hf]

theorem among_append (l m : List (List Char)) : among header fence number (l ++ m) =
    among header fence number l ++
      among header (fenceBelow fence l) (number + l.length) m := by
  induction l generalizing fence number with
  | nil => rw [among_nil]; rfl
  | cons line l ih =>
    have hn : number + (line :: l).length = number + 1 + l.length := by
      rw [List.length_cons, Nat.add_assoc, Nat.add_comm 1]
    rw [List.cons_append, among_cons, ih, among_cons, List.append_assoc, hn]
    rfl

theorem among_succ (l : List (List Char)) : among (header.map (· + 1)) fence (number + 1) l =
    (among header fence number l).map down := by
  induction l generalizing fence number with
  | nil => rw [among_nil, among_nil, List.map_nil]
  | cons line l ih =>
    have hh : header.map (· + 1) = some (number + 1) ↔ header = some number := by
      cases header <;> simp
    rw [among_cons, among_cons, ih, List.map_append, ofLine?_succ]
    simp only [ne_eq, hh]
    congr 1
    split
    · cases ofLine? number line <;> rfl
    · rfl

theorem line_of_mem_among (h : c ∈ among header fence number l) :
    number ≤ c.position.line ∧ c.position.line < number + l.length := by
  induction l generalizing fence number with
  | nil =>
    rw [among_nil] at h
    cases h
  | cons line l ih =>
    rw [List.length_cons]
    rw [among_cons] at h
    rcases List.mem_append.mp h with h | h
    · split at h
      · obtain ⟨w, l, -, -, rfl⟩ := ofLine?_eq_some_iff.mp (Option.mem_toList.mp h)
        dsimp only
        omega
      · cases h
    · have hrest := ih h
      omega

theorem among_congr {header' : Option Nat} (h : ∀ i, number ≤ i → i < number + l.length →
    (header = some i ↔ header' = some i)) :
    among header fence number l = among header' fence number l := by
  induction l generalizing fence number with
  | nil => rw [among_nil, among_nil]
  | cons line l ih =>
    rw [List.length_cons] at h
    have hnum := h number (Nat.le_refl _) (by omega)
    rw [among_cons, among_cons, ih fun i hi hi' ↦ h i (by omega) (by omega)]
    simp only [ne_eq, hnum]

theorem filter_among_append (number n : Nat) (hn : number + l.length = n + 1)
    (m : List (List Char)) :
    (among header fence number (l ++ m)).filter (·.position.line ≤ n) =
        among header fence number l ∧
      (among header fence number (l ++ m)).filter (n < ·.position.line) =
        among header (fenceBelow fence l) (n + 1) m := by
  have habove : ∀ c ∈ among header fence number l, c.position.line ≤ n := fun c hc ↦ by
    have := line_of_mem_among hc
    omega
  have hbelow : ∀ c ∈ among header (fenceBelow fence l) (n + 1) m, n < c.position.line :=
    fun c hc ↦ (line_of_mem_among hc).1
  rw [among_append, hn, List.filter_append, List.filter_append]
  constructor
  · rw [List.filter_eq_self.mpr fun c hc ↦ decide_eq_true (habove c hc), List.filter_eq_nil_iff.mpr,
      List.append_nil]
    intro c hc
    have := hbelow c hc
    rw [decide_eq_true_eq]
    omega
  · rw [List.filter_eq_nil_iff.mpr, List.nil_append,
      List.filter_eq_self.mpr fun c hc ↦ decide_eq_true (hbelow c hc)]
    intro c hc
    have := habove c hc
    rw [decide_eq_true_eq]
    omega

theorem mem_of_fenceAfter {fence : Option (List Char)} (hf : ∀ f ∈ fence, f ∈ [quotes, ticks])
    (line : List Char) : ∀ f ∈ fenceAfter fence line, f ∈ [quotes, ticks] := by
  intro f h
  cases fence with
  | none => exact mem_of_fenceOf h
  | some f' =>
    rw [fenceAfter] at h
    split at h
    · cases h
    · exact hf f h

theorem mem_of_fenceBelow {l : List (List Char)} {fence : Option (List Char)}
    (hf : ∀ f ∈ fence, f ∈ [quotes, ticks]) : ∀ f ∈ fenceBelow fence l, f ∈ [quotes, ticks] := by
  induction l generalizing fence with
  | nil => exact hf
  | cons line l ih => exact ih (mem_of_fenceAfter hf line)

/-- One more line that begins with a number sign opens and closes nothing, and it is a comment
exactly if no fence is open above it. -/
theorem among_hash {header fence : Option _} {number : Nat} {line l : List Char}
    {m : List (List Char)} (hf : ∀ f ∈ fence, f ∈ [quotes, ticks])
    (hl : trimStart line = '#' :: l) (hh : header ≠ some number) :
    among header fence number (line :: m) =
      (if fence = none then (ofLine? number line).toList else []) ++
        among header fence (number + 1) m := by
  have hafter : fenceAfter fence line = fence := by
    cases fence with
    | none => exact fenceOf_hash hl
    | some f => rw [fenceAfter, hl, not_isPrefixOf_hash (hf f rfl), if_neg Bool.false_ne_true]
  rw [among_cons, hafter]
  simp only [hh, ne_eq, not_false_eq_true, and_true]

end Comment

namespace Header

variable {number : Nat} {h : Header} {l m : List (List Char)} {line : List Char}

theorem mayPrecede_append {w : List Char} (hw : w.all Unicode.isBlank) (l : List Char) :
    mayPrecede (w ++ '#' :: l) := by
  have hhash : Unicode.isBlank '#' = false := by decide
  rw [mayPrecede, trim, trimStart_blank_append hw hhash, trimEnd_cons hhash]
  rfl

theorem among_succ (number : Nat) (l : List (List Char)) :
    among (number + 1) l = (among number l).map fun h ↦ { h with line := h.line + 1 } := by
  induction l generalizing number with
  | nil => rfl
  | cons line l ih =>
    rw [among, among]
    split
    · cases code? line with
      | some code => rfl
      | none => exact ih (number + 1)
    · rfl

theorem le_of_among (h' : among number l = some h) : number ≤ h.line := by
  induction l generalizing number with
  | nil => cases h'
  | cons line l ih =>
    rw [among] at h'
    split at h'
    · split at h'
      · obtain rfl := Option.some.inj h'
        exact Nat.le_refl _
      · exact Nat.le_of_succ_le (ih h')
    · cases h'

def moved (n : Nat) (h : Header) : Header := if h.line ≤ n then h else { h with line := h.line + 1 }

theorem line_moved (n : Nat) (h : Header) :
    (h.moved n).line = if h.line ≤ n then h.line else h.line + 1 := by
  rw [moved]
  split <;> rfl

theorem among_insert (hp : mayPrecede line) (hc : code? line = none) (n : Nat)
    (hn : number + l.length = n + 1) :
    among number (l ++ line :: m) = (among number (l ++ m)).map (moved n) := by
  induction l generalizing number with
  | nil =>
    rw [List.nil_append, List.nil_append, among, hp, if_pos rfl, hc]
    dsimp only
    rw [among_succ]
    cases hm : among number m with
    | none => rfl
    | some h =>
      have := le_of_among hm
      rw [List.length_nil] at hn
      rw [Option.map_some, Option.map_some, moved, if_neg (by omega)]
  | cons first l ih =>
    rw [List.cons_append, List.cons_append, among, among]
    split
    · rw [List.length_cons] at hn
      cases code? first with
      | some code =>
        rw [Option.map_some, moved, if_pos]
        dsimp only
        omega
      | none => exact ih (by omega)
    · rfl

end Header

namespace Comment

/-- One more line that begins with a number sign moves the comments below it, and it is one more
comment exactly if no fence is open above it. -/
theorem among_insert (header : Option Header) {above below : List (List Char)} {line l : List Char}
    (hl : trimStart line = '#' :: l) {n : Nat} (hn : above.length = n) {cs : List Comment}
    (hcs : cs = among (header.map Header.line) none 1 (above ++ below)) :
    among ((header.map (Header.moved n)).map Header.line) none 1 (above ++ line :: below) =
      cs.filter (·.position.line ≤ n) ++
        ((if fenceBelow none above = none then (ofLine? (n + 1) line).toList else []) ++
          (cs.filter (n < ·.position.line)).map down) := by
  have hcongr (i : Nat) (hi : i ≤ n) : header.map Header.line = some i ↔
      (header.map (Header.moved n)).map Header.line = some i := by
    cases header with
    | none => rfl
    | some h =>
      simp only [Option.map_some, Option.some_inj, Header.line_moved]
      split <;> omega
  have hne : (header.map (Header.moved n)).map Header.line ≠ some (n + 1) := by
    cases header with
    | none => nofun
    | some h =>
      simp only [Option.map_some, Ne, Option.some_inj, Header.line_moved]
      split <;> omega
  have hsucc (i : Nat) (hi : n + 2 ≤ i) : (header.map Header.line).map (· + 1) = some i ↔
      (header.map (Header.moved n)).map Header.line = some i := by
    cases header with
    | none => rfl
    | some h =>
      simp only [Option.map_some, Option.some_inj, Header.line_moved]
      split <;> omega
  have hmem : ∀ f ∈ fenceBelow none above, f ∈ [DocString.quotes, DocString.ticks] :=
    mem_of_fenceBelow nofun
  obtain ⟨habove, hbelow⟩ :=
    @filter_among_append (header.map Header.line) none above 1 n (by omega) below
  rw [hcs, habove, hbelow, among_append, hn, Nat.add_comm 1 n,
    among_hash hmem hl hne, ← among_succ]
  congr 1
  · exact (among_congr fun i _ hi ↦ hcongr i (by omega)).symm
  · congr 1
    exact (among_congr fun i hi _ ↦ hsucc i hi).symm

end Comment

end Gherkin

end LivingDoc
