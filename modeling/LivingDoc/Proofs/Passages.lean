import LivingDoc.Gherkin.Raw
import LivingDoc.Proofs.Fences

namespace LivingDoc.Gherkin

open Text DocString

namespace Raw

/-- No line of a text begins with a fence. -/
def Unfenced (s : Option String) : Prop := ∀ t ∈ s, ∀ line ∈ lines t.toList, fenceOf line = none

instance (s : Option String) : Decidable (Unfenced s) :=
  inferInstanceAs (Decidable (∀ t ∈ s, ∀ line ∈ lines t.toList, fenceOf line = none))

namespace Step

variable (s : Step)

def docStrings : List String := s.docString.toList

/-- The fence that closes the doc string of a step stands first on its line, and there is no table
besides the doc string. -/
structure Orderly : Prop where
  docString : ∀ t ∈ s.docString, t.toList.getLast? = some '\n'
  bare : s.docString = none ∨ s.table = none

instance : Decidable s.Orderly :=
  decidable_of_iff ((∀ t ∈ s.docString, t.toList.getLast? = some '\n') ∧
    (s.docString = none ∨ s.table = none)) ⟨fun h ↦ ⟨h.1, h.2⟩, fun h ↦ ⟨h.1, h.2⟩⟩

end Step

namespace Background

variable (b : Background)

def docStrings : List String := b.steps.flatMap Step.docStrings

structure Orderly : Prop where
  description : Unfenced b.description
  steps : ∀ s ∈ b.steps, s.Orderly

instance : Decidable b.Orderly :=
  decidable_of_iff (Unfenced b.description ∧ ∀ s ∈ b.steps, s.Orderly)
    ⟨fun h ↦ ⟨h.1, h.2⟩, fun h ↦ ⟨h.1, h.2⟩⟩

end Background

namespace Scenario

variable (s : Scenario)

def docStrings : List String := s.steps.flatMap Step.docStrings

structure Orderly : Prop where
  description : Unfenced s.description
  steps : ∀ t ∈ s.steps, t.Orderly
  examples : ∀ e ∈ s.examples, Unfenced e.description

instance : Decidable s.Orderly :=
  decidable_of_iff (Unfenced s.description ∧ (∀ t ∈ s.steps, t.Orderly) ∧
    ∀ e ∈ s.examples, Unfenced e.description)
    ⟨fun h ↦ ⟨h.1, h.2.1, h.2.2⟩, fun h ↦ ⟨h.1, h.2, h.3⟩⟩

end Scenario

namespace Feature

variable (f : Feature)

def docStrings : List String :=
  f.background.toList.flatMap Background.docStrings ++ f.scenarios.flatMap Scenario.docStrings

/-- A feature without rules in which fences stand first on their lines and enclose doc strings. -/
structure Orderly : Prop where
  description : Unfenced f.description
  background : ∀ b ∈ f.background, b.Orderly
  scenarios : ∀ s ∈ f.scenarios, s.Orderly
  rules : f.rules = []

instance : Decidable f.Orderly :=
  decidable_of_iff (Unfenced f.description ∧ (∀ b ∈ f.background, b.Orderly) ∧
    (∀ s ∈ f.scenarios, s.Orderly) ∧ f.rules = [])
    ⟨fun h ↦ ⟨h.1, h.2.1, h.2.2.1, h.2.2.2⟩, fun h ↦ ⟨h.1, h.2, h.3, h.4⟩⟩

end Feature

end Raw

/-- A doc string as it stands in a text, from the white space before the fence that opens it to the
end of the line with the fence that closes it. -/
structure Quotation where
  fence : List Char
  indent : List Char
  opening : List Char
  lines : List (List Char)
  closing : List Char
  rest : List Char

namespace Quotation

variable (q : Quotation)

def body : List Char := q.opening ++ '\n' :: (q.lines.flatMap (· ++ ['\n']) ++ q.closing)

def text : List Char := q.indent ++ q.fence ++ q.body ++ q.fence ++ q.rest ++ ['\n']

/-- Both fences stand first on their lines, and none stands first on a line between them. -/
structure Proper : Prop where
  fence : q.fence ∈ [quotes, ticks]
  indent : Space q.indent
  opening : '\n' ∉ q.opening
  lines : ∀ line ∈ q.lines, '\n' ∉ line ∧ q.fence.isPrefixOf (trimStart line) = false
  closing : Space q.closing
  rest : '\n' ∉ q.rest

end Quotation

inductive Passage where
  | line (p : List Char)
  | docString (q : Quotation)

namespace Passage

def text : Passage → List Char
  | line p => p ++ ['\n']
  | docString q => q.text

def body? : Passage → Option (List Char)
  | line _ => none
  | docString q => some q.body

/-- A line on its own begins with no fence. -/
def Proper : Passage → Prop
  | line p => '\n' ∉ p ∧ fenceOf p = none
  | docString q => q.Proper

end Passage

/-- What is relied on of a parser. An orderly feature is written in lines that begin with no fence
and in doc strings between fences, and its doc strings are their bodies, moved to the left margin by
`flush`, which keeps every line feed. -/
structure Parser.Encloses (g : Parser) (flush : List Char → String) : Prop where
  count : ∀ body, (flush body).toList.count '\n' = body.count '\n'
  passages : ∀ {code : Option String} {l : List Char} {f : Raw.Feature}, Whole l →
    g.parse? code l = some f → f.Orderly → ∃ ps : List Passage, (∀ p ∈ ps, p.Proper) ∧
      l = ps.flatMap Passage.text ∧ f.docStrings = (ps.filterMap Passage.body?).map flush

namespace Track

theorem exists_of_isPrefixOf {fence p : List Char} (hp : '\n' ∉ p)
    (h : fence.isPrefixOf (trimStart p) = true) :
    ∃ w rest, p = w ++ fence ++ rest ∧ Space w ∧ '\n' ∉ rest := by
  obtain ⟨rest, hrest⟩ := List.isPrefixOf_iff_prefix.mp h
  have hsplit : p = p.takeWhile Unicode.isBlank ++ fence ++ rest := by
    rw [List.append_assoc, hrest]
    exact List.takeWhile_append_dropWhile.symm
  rw [hsplit] at hp
  simp only [List.mem_append, not_or] at hp
  exact ⟨_, rest, hsplit, ⟨hp.1.1, List.all_takeWhile⟩, hp.2⟩

variable {fence u p : List Char} {bodies : List (List Char)}

theorem endLine_opening (h : fence ∈ [quotes, ticks]) {indent : List Char} (hs : Space indent) :
    endLine ⟨bodies, none, indent ++ fence ++ p⟩ = ⟨bodies, some (fence, p ++ ['\n']), []⟩ := by
  have hline : trimStart (indent ++ fence ++ p) = fence ++ p := by
    rw [List.append_assoc, hs.trimStart, trimStart_fence h]
  have hfence : fenceOf (indent ++ fence ++ p) = some fence := by
    rw [fenceOf, hline, ← trimStart_fence h]
    exact fenceOf_fence h p
  rw [endLine]
  dsimp only
  rw [hfence, hline, Option.map_some, List.drop_left]

theorem endLine_line {line : List Char} (hline : fenceOf line = none) :
    endLine ⟨bodies, none, line⟩ = ⟨bodies, none, []⟩ := by
  simp [endLine, hline]

theorem endLine_inside {line : List Char} (hline : fence.isPrefixOf (trimStart line) = false) :
    endLine ⟨bodies, some (fence, u), line⟩ =
      ⟨bodies, some (fence, u ++ (line ++ ['\n'])), []⟩ := by
  simp [endLine, hline]

theorem endLine_closing (h : fence ∈ [quotes, ticks]) {closing : List Char} (hs : Space closing) :
    endLine ⟨bodies, some (fence, u), closing ++ fence ++ p⟩ =
      ⟨bodies ++ [u ++ closing], none, []⟩ := by
  have hprefix : fence.isPrefixOf (trimStart (closing ++ fence ++ p)) = true := by
    rw [List.append_assoc, hs.trimStart, trimStart_fence h]
    exact List.isPrefixOf_iff_prefix.mpr (List.prefix_append _ _)
  have htake : (closing ++ fence ++ p).takeWhile Unicode.isBlank = closing := by
    rw [List.append_assoc, List.takeWhile_append_of_pos (List.all_eq_true.mp hs.2)]
    simp only [List.mem_cons, List.not_mem_nil, or_false] at h
    rcases h with rfl | rfl <;> exact List.append_nil closing
  rw [endLine]
  dsimp only
  rw [if_pos hprefix, htake]

theorem feed_lines {ls : List (List Char)}
    (h : ∀ line ∈ ls, '\n' ∉ line ∧ fence.isPrefixOf (trimStart line) = false) (l : List Char) :
    feed ⟨bodies, some (fence, u), []⟩ (ls.flatMap (· ++ ['\n']) ++ l) =
      feed ⟨bodies, some (fence, u ++ ls.flatMap (· ++ ['\n'])), []⟩ l := by
  induction ls generalizing u with
  | nil => simp
  | cons line ls ih =>
    obtain ⟨⟨hn, hline⟩, hls⟩ := List.forall_mem_cons.mp h
    rw [List.flatMap_cons, List.append_assoc, List.append_assoc, List.singleton_append,
      feed_newline hn]
    dsimp only
    rw [List.nil_append, endLine_inside hline, ih hls, List.append_assoc]

theorem feed_quotation {q : Quotation} (h : q.Proper) :
    feed ⟨bodies, none, []⟩ q.text = ⟨bodies ++ [q.body], none, []⟩ := by
  obtain ⟨fence, indent, opening, ls, closing, rest⟩ := q
  obtain ⟨hf, hindent, ho, hls, hclosing, hrest⟩ := h
  dsimp only at hf hindent ho hls hclosing hrest
  have hopening : '\n' ∉ indent ++ fence ++ opening := by
    simp [hindent.1, newline_not_mem hf, ho]
  have hclose : '\n' ∉ closing ++ fence ++ rest := by
    simp [hclosing.1, newline_not_mem hf, hrest]
  have htext : Quotation.text ⟨fence, indent, opening, ls, closing, rest⟩ =
      indent ++ fence ++ opening ++ '\n' ::
        (ls.flatMap (· ++ ['\n']) ++ (closing ++ fence ++ rest ++ ['\n'])) := by
    simp [Quotation.text, Quotation.body]
  rw [htext, feed_newline hopening]
  dsimp only
  rw [List.nil_append, endLine_opening hf hindent, feed_lines hls, feed_newline hclose]
  dsimp only
  rw [List.nil_append, endLine_closing hf hclosing]
  simp [feed, Quotation.body]

/-- Feeding passages gives the bodies of the doc strings among them. -/
theorem feed_passages {ps : List Passage} (h : ∀ p ∈ ps, p.Proper) :
    feed ⟨bodies, none, []⟩ (ps.flatMap Passage.text) =
      ⟨bodies ++ ps.filterMap Passage.body?, none, []⟩ := by
  induction ps generalizing bodies with
  | nil => simp [feed]
  | cons p ps ih =>
    obtain ⟨hp, hps⟩ := List.forall_mem_cons.mp h
    rw [List.flatMap_cons, feed_append]
    cases p with
    | line p =>
      rw [Passage.text, feed_newline hp.1]
      dsimp only
      rw [List.nil_append, endLine_line hp.2, List.filterMap_cons_none rfl]
      exact ih hps
    | docString q =>
      have hbody : (Passage.docString q :: ps).filterMap Passage.body? =
          q.body :: ps.filterMap Passage.body? := rfl
      rw [Passage.text, feed_quotation hp, ih hps, hbody, List.append_assoc, List.singleton_append]

/-- A fence that is open is closed on the first line that it stands first on. -/
theorem exists_closing (hf : fence ∈ [quotes, ticks]) {l : List Char} (hl : Whole l)
    (h : (feed ⟨bodies, some (fence, u), []⟩ l).block = none) :
    ∃ (ls : List (List Char)) (closing rest below : List Char),
      (∀ line ∈ ls, '\n' ∉ line ∧ fence.isPrefixOf (trimStart line) = false) ∧
      Space closing ∧ '\n' ∉ rest ∧ Whole below ∧
      l = ls.flatMap (· ++ ['\n']) ++ (closing ++ fence ++ rest ++ '\n' :: below) ∧
      feed ⟨bodies, some (fence, u), []⟩ l =
        feed ⟨bodies ++ [u ++ (ls.flatMap (· ++ ['\n']) ++ closing)], none, []⟩ below := by
  induction hl generalizing u with
  | nil => cases h
  | @line p l hp hl ih =>
    rw [feed_newline hp] at h ⊢
    dsimp only at h ⊢
    rw [List.nil_append] at h ⊢
    cases hclose : fence.isPrefixOf (trimStart p) with
    | true =>
      obtain ⟨closing, rest, rfl, hclosing, hrest⟩ := exists_of_isPrefixOf hp hclose
      exact ⟨[], closing, rest, l, nofun, hclosing, hrest, hl, rfl, by
        rw [endLine_closing hf hclosing, List.flatMap_nil, List.nil_append]⟩
    | false =>
      rw [endLine_inside hclose] at h ⊢
      obtain ⟨ls, closing, rest, below, hls, hclosing, hrest, hbelow, rfl, hfeed⟩ := ih h
      exact ⟨p :: ls, closing, rest, below, List.forall_mem_cons.mpr ⟨⟨hp, hclose⟩, hls⟩, hclosing,
        hrest, hbelow, by simp, by rw [hfeed]; simp⟩

/-- A text below which no fence is open is made of passages. -/
theorem exists_passages {l : List Char} (hl : Whole l)
    (h : (feed ⟨bodies, none, []⟩ l).block = none) :
    ∃ ps : List Passage, (∀ p ∈ ps, p.Proper) ∧ l = ps.flatMap Passage.text := by
  -- A doc string takes several lines at once, so the induction is on the length.
  induction hlen : l.length using Nat.strong_induction_on generalizing l bodies with
  | _ n ih =>
    subst hlen
    cases hl with
    | nil => exact ⟨[], nofun, rfl⟩
    | @line p l hp hl =>
      rw [feed_newline hp] at h
      dsimp only at h
      rw [List.nil_append] at h
      cases hfence : fenceOf p with
      | none =>
        rw [endLine_line hfence] at h
        obtain ⟨ps, hps, rfl⟩ :=
          ih _ (by simp only [List.length_append, List.length_cons]; omega) hl h rfl
        exact ⟨.line p :: ps, List.forall_mem_cons.mpr ⟨⟨hp, hfence⟩, hps⟩, by simp [Passage.text]⟩
      | some fence =>
        have hf := mem_of_fenceOf hfence
        obtain ⟨indent, opening, rfl, hindent, hopening⟩ :=
          exists_of_isPrefixOf hp (isPrefixOf_of_fenceOf hfence)
        rw [endLine_opening hf hindent] at h
        obtain ⟨ls, closing, rest, below, hls, hclosing, hrest, hbelow, rfl, hfeed⟩ :=
          exists_closing hf hl h
        rw [hfeed] at h
        obtain ⟨ps, hps, rfl⟩ := ih _ (by simp only [List.length_append, List.length_cons]; omega)
          hbelow h rfl
        exact ⟨.docString ⟨fence, indent, opening, ls, closing, rest⟩ :: ps,
          List.forall_mem_cons.mpr ⟨⟨hf, hindent, hopening, hls, hclosing, hrest⟩, hps⟩,
          by simp [Passage.text, Quotation.text, Quotation.body]⟩

theorem total_of_block {σ : Track} (h : σ.block = none) {flush : List Char → String}
    (hflush : ∀ body, (flush body).toList.count '\n' = body.count '\n') :
    σ.total = ((σ.bodies.map flush).flatMap String.toList).count '\n' := by
  rw [total, h, Option.map_none, Option.getD_none, List.append_nil]
  induction σ.bodies with
  | nil => rfl
  | cons body bodies ih =>
    rw [List.flatten_cons, List.map_cons, List.flatMap_cons, List.count_append, List.count_append,
      ih, hflush]

end Track

namespace Parser.Encloses

open Track

variable {g : Parser} {flush : List Char → String} {code code' : Option String} {l l' : List Char}
  {f f' : Raw.Feature} (hg : g.Encloses flush)
include hg

theorem docStrings_eq_map (hl : Whole l) (h : g.parse? code l = some f) (hf : f.Orderly) :
    (start.feed l).block = none ∧ f.docStrings = (start.feed l).bodies.map flush := by
  obtain ⟨ps, hps, rfl, hdocs⟩ := hg.passages hl h hf
  rw [start, feed_passages hps, List.nil_append]
  exact ⟨rfl, hdocs⟩

variable (hl : Whole l) (hl' : Whole l') (h : g.parse? code l = some f)
  (h' : g.parse? code' l' = some f') (hf : f.Orderly) (hf' : f'.Orderly)
include hl hl' h h' hf hf'

theorem docStrings_congr (hfeed : start.feed l' = start.feed l) : f'.docStrings = f.docStrings := by
  rw [(hg.docStrings_eq_map hl h hf).2, (hg.docStrings_eq_map hl' h' hf').2, hfeed]

theorem count_docStrings (hlonger : Longer (start.feed l) (start.feed l')) :
    (f'.docStrings.flatMap String.toList).count '\n' =
      (f.docStrings.flatMap String.toList).count '\n' + 1 := by
  obtain ⟨hblock, hdocs⟩ := hg.docStrings_eq_map hl h hf
  obtain ⟨hblock', hdocs'⟩ := hg.docStrings_eq_map hl' h' hf'
  rw [hdocs, hdocs', ← total_of_block hblock hg.count, ← total_of_block hblock' hg.count]
  exact hlonger.total

end Parser.Encloses

end LivingDoc.Gherkin
