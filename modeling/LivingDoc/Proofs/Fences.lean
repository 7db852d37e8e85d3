import LivingDoc.Proofs.Scan

namespace LivingDoc.Gherkin

open Text DocString Comment

/-- What fences make of a text: the bodies between those that have been closed, the fence that is
open with the body below it, and the line that has been begun. -/
structure Track where
  bodies : List (List Char)
  block : Option (List Char × List Char)
  line : List Char

namespace DocString

theorem not_blank_of_mem {fence : List Char} (h : fence ∈ [quotes, ticks]) :
    ∀ c ∈ fence, Unicode.isBlank c = false := by
  have hall : fence.all fun c ↦ !Unicode.isBlank c := by
    simp only [List.mem_cons, List.not_mem_nil, or_false] at h
    rcases h with rfl | rfl <;> rfl
  exact fun c hc ↦ by simpa using List.all_eq_true.mp hall c hc

theorem ne_nil_of_mem {fence : List Char} (h : fence ∈ [quotes, ticks]) : fence ≠ [] := by
  simp only [List.mem_cons, List.not_mem_nil, or_false] at h
  rcases h with rfl | rfl <;> exact List.cons_ne_nil _ _

theorem newline_not_mem {fence : List Char} (h : fence ∈ [quotes, ticks]) : '\n' ∉ fence := by
  intro hn
  have := not_blank_of_mem h _ hn
  contradiction

theorem trimStart_fence {fence : List Char} (h : fence ∈ [quotes, ticks]) (l : List Char) :
    trimStart (fence ++ l) = fence ++ l := by
  simp only [List.mem_cons, List.not_mem_nil, or_false] at h
  rcases h with rfl | rfl <;> exact trimStart_cons (by decide) _

theorem fenceOf_fence {fence : List Char} (h : fence ∈ [quotes, ticks]) (l : List Char) :
    fenceOf (fence ++ l) = some fence := by
  simp only [List.mem_cons, List.not_mem_nil, or_false] at h
  rw [fenceOf]
  rcases h with rfl | rfl <;> rfl

theorem isPrefixOf_append_blank {fence : List Char} (hf : fence ∈ [quotes, ticks]) {x : List Char}
    (hx : x.all Unicode.isBlank) (l : List Char) :
    fence.isPrefixOf (trimStart (l ++ x)) = fence.isPrefixOf (trimStart l) := by
  by_cases hl : l.all Unicode.isBlank
  · rw [trimStart_of_all hl, trimStart_eq_nil hx, trimStart_eq_nil hl]
  · rw [trimStart_append hl, Bool.eq_iff_iff, List.isPrefixOf_iff_prefix,
      List.isPrefixOf_iff_prefix]
    refine ⟨fun h ↦ ?_, fun h ↦ h.trans (List.prefix_append _ _)⟩
    rcases List.prefix_or_prefix_of_prefix h (List.prefix_append _ x) with h' | ⟨y, rfl⟩
    · exact h'
    · cases y with
      | nil => rw [List.append_nil]
      | cons c y =>
        have hcx : c ∈ x := ((List.prefix_append_right_inj _).mp h).mem List.mem_cons_self
        have hc := not_blank_of_mem hf c (List.mem_append_right _ List.mem_cons_self)
        rw [List.all_eq_true.mp hx c hcx] at hc
        cases hc

theorem fenceOf_append_blank {x : List Char} (hx : x.all Unicode.isBlank) (l : List Char) :
    fenceOf (l ++ x) = fenceOf l := by
  have hfence {fence : List Char} (hf : fence ∈ [quotes, ticks]) := isPrefixOf_append_blank hf hx l
  have hquotes := hfence List.mem_cons_self
  have hticks := hfence (List.mem_cons_of_mem _ List.mem_cons_self)
  simp only [fenceOf, List.find?_cons, List.find?_nil, hquotes, hticks]

theorem fenceOf_of_intercalate {ls : List (List Char)} (hn : ∀ l ∈ ls, '\n' ∉ l)
    (h : ∀ line ∈ lines (['\n'].intercalate ls), fenceOf line = none) :
    ∀ l ∈ ls, fenceOf l = none := by
  induction ls with
  | nil => exact nofun
  | cons l ls ih =>
    obtain ⟨hl, hls⟩ := List.forall_mem_cons.mp hn
    cases ls with
    | nil =>
      rw [List.forall_mem_singleton]
      by_cases hne : l = []
      · subst hne
        rfl
      · rw [List.intercalate_singleton, lines_of_not_mem hl hne, List.forall_mem_singleton] at h
        exact h
    | cons m ls =>
      rw [List.intercalate_cons_cons, List.append_assoc, List.singleton_append, lines_line hl,
        List.forall_mem_cons] at h
      refine List.forall_mem_cons.mpr ⟨?_, ih hls h.2⟩
      obtain ⟨x, hx, hlx⟩ := eq_dropReturn_append l
      rw [hlx, fenceOf_append_blank hx]
      exact h.1

end DocString

namespace Comment

theorem fenceAfter_dropReturn {fence : Option (List Char)} (hf : ∀ f ∈ fence, f ∈ [quotes, ticks])
    (line : List Char) : fenceAfter fence line = fenceAfter fence (dropReturn line) := by
  obtain ⟨x, hx, hline⟩ := eq_dropReturn_append line
  conv_lhs => rw [hline]
  cases fence with
  | none => exact fenceOf_append_blank hx _
  | some f => rw [fenceAfter, fenceAfter, isPrefixOf_append_blank (hf f rfl) hx]

end Comment

namespace Track

variable (σ : Track)

def start : Track := ⟨[], none, []⟩

def fence : Option (List Char) := σ.block.map Prod.fst

def endLine : Track :=
  match σ.block with
  | none => ⟨σ.bodies, (fenceOf σ.line).map fun fence ↦
      (fence, (trimStart σ.line).drop fence.length ++ ['\n']), []⟩
  | some (fence, body) =>
    if fence.isPrefixOf (trimStart σ.line)
    then ⟨σ.bodies ++ [body ++ σ.line.takeWhile Unicode.isBlank], none, []⟩
    else ⟨σ.bodies, some (fence, body ++ σ.line ++ ['\n']), []⟩

def read (c : Char) : Track := if c = '\n' then σ.endLine else { σ with line := σ.line ++ [c] }

def feed (l : List Char) : Track := l.foldl read σ

theorem feed_append (l m : List Char) : σ.feed (l ++ m) = (σ.feed l).feed m := List.foldl_append

variable {σ} {p l : List Char}

theorem feed_line (hp : '\n' ∉ p) : σ.feed p = { σ with line := σ.line ++ p } := by
  induction p generalizing σ with
  | nil => simp [feed]
  | cons c p ih =>
    obtain ⟨hc, hp⟩ := List.ne_and_not_mem_of_not_mem_cons hp
    change (σ.read c).feed p = _
    rw [ih hp, read, if_neg (Ne.symm hc)]
    simp

theorem feed_newline (hp : '\n' ∉ p) :
    σ.feed (p ++ '\n' :: l) = { σ with line := σ.line ++ p }.endLine.feed l := by
  rw [feed_append, feed_line hp]
  rfl

theorem line_endLine : σ.endLine.line = [] := by
  rw [endLine]
  split
  · rfl
  · split <;> rfl

theorem fence_endLine : σ.endLine.fence = fenceAfter σ.fence σ.line := by
  rw [endLine, fence, fence]
  cases σ.block with
  | none => cases h : fenceOf σ.line <;> simp [fenceAfter, h]
  | some b =>
    dsimp only [Option.map_some, fenceAfter]
    split <;> rfl

/-- Where a line begins, the open fence is the one that the search for comments finds open below the
lines above. -/
theorem feed_whole {a : List Char} (ha : Whole a) (hσ : σ.line = [])
    (hf : ∀ f ∈ σ.fence, f ∈ [quotes, ticks]) :
    (σ.feed a).line = [] ∧ (σ.feed a).fence = fenceBelow σ.fence (lines a) := by
  induction ha generalizing σ with
  | nil => exact ⟨hσ, rfl⟩
  | @line p l hp hl ih =>
    have hfence : { σ with line := σ.line ++ p }.endLine.fence =
      fenceAfter σ.fence (dropReturn p) := by
      rw [fence_endLine, hσ, List.nil_append]
      exact fenceAfter_dropReturn hf p
    rw [feed_newline hp, lines_line hp, fenceBelow, List.foldl_cons, ← hfence]
    exact ih line_endLine (hfence ▸ mem_of_fenceAfter hf _)

theorem feed_start {a : List Char} (ha : Whole a) :
    (start.feed a).line = [] ∧ (start.feed a).fence = fenceBelow none (lines a) :=
  feed_whole ha rfl fun _ h ↦ nomatch h

theorem mem_fence_start {a : List Char} (ha : Whole a) :
    ∀ f ∈ (start.feed a).fence, f ∈ [quotes, ticks] := by
  rw [(feed_start ha).2]
  exact mem_of_fenceBelow fun _ h ↦ nomatch h

theorem feed_hash {p l : List Char} (hp : '\n' ∉ p) (hl : trimStart p = '#' :: l)
    (hσ : σ.line = []) (hf : ∀ f ∈ σ.fence, f ∈ [quotes, ticks]) :
    σ.feed (p ++ ['\n']) =
      { σ with block := σ.block.map fun b ↦ (b.1, b.2 ++ (p ++ ['\n'])) } := by
  rw [feed_newline hp, hσ, List.nil_append]
  change endLine ⟨σ.bodies, σ.block, p⟩ = _
  rw [endLine]
  cases hb : σ.block with
  | none => simp [fenceOf_hash hl]
  | some b =>
    have hnot := not_isPrefixOf_hash (hf b.1 (by simp [fence, hb])) l
    simp [hl, hnot]

def total (σ : Track) : Nat := (σ.bodies.flatten ++ (σ.block.map Prod.snd).getD []).count '\n'

/-- A track differs from another one by one more line feed in its bodies. -/
structure Longer (σ τ : Track) : Prop where
  line : τ.line = σ.line
  fence : τ.fence = σ.fence
  total : τ.total = σ.total + 1

variable {τ : Track}

theorem Longer.endLine (h : Longer σ τ) : Longer σ.endLine τ.endLine := by
  obtain ⟨bodies, block, line⟩ := σ
  obtain ⟨bodies', block', line'⟩ := τ
  obtain ⟨hl, hf, ht⟩ := h
  change line' = line at hl
  subst hl
  simp only [Track.total, List.count_append] at ht
  refine ⟨by rw [line_endLine, line_endLine], by rw [fence_endLine, fence_endLine, hf], ?_⟩
  cases block with
  | none =>
    obtain rfl : block' = none := Option.map_eq_none_iff.mp hf
    simp only [Track.endLine, Track.total, List.count_append]
    simp only [Option.map_none, Option.getD_none, List.count_nil] at ht
    omega
  | some b =>
    obtain ⟨fence, body⟩ := b
    obtain ⟨⟨fence', body'⟩, rfl, hb⟩ := Option.map_eq_some_iff.mp hf
    change fence' = fence at hb
    subst hb
    simp only [Option.map_some, Option.getD_some] at ht
    rw [Track.endLine, Track.endLine]
    dsimp only
    split
    · simp only [Track.total, List.count_append, List.flatten_append, List.flatten_singleton,
        Option.map_none, Option.getD_none, List.count_nil]
      omega
    · simp only [Track.total, List.count_append, Option.map_some, Option.getD_some]
      omega

theorem Longer.feed (h : Longer σ τ) (l : List Char) : Longer (σ.feed l) (τ.feed l) := by
  induction l generalizing σ τ with
  | nil => exact h
  | cons c l ih =>
    refine ih ?_
    rw [read, read]
    split
    · exact h.endLine
    · exact ⟨congrArg (· ++ [c]) h.line, h.fence, h.total⟩

end Track

end LivingDoc.Gherkin
