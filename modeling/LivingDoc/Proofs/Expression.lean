import LivingDoc.Proofs.Heading
import LivingDoc.Proofs.Notation
import Mathlib.Data.List.Forall2
import Mathlib.Data.List.Lex

namespace LivingDoc

/-- A piece of an expression: what characters it takes, how many of them in a row, and whether they
are captured. -/
structure Piece where
  kind : Char → Bool
  least : Nat
  most : Option Nat
  captured : Bool

namespace Piece

def one (kind : Char → Bool) : Piece := ⟨kind, 1, some 1, false⟩

def many (least : Nat) (kind : Char → Bool) : Piece := ⟨kind, least, none, false⟩

def capture (p : Piece) : Piece := { p with captured := true }

def Takes (p : Piece) (run : List Char) : Prop :=
  (∀ c ∈ run, p.kind c) ∧ p.least ≤ run.length ∧ ∀ n ∈ p.most, run.length ≤ n

variable {kind : Char → Bool} {p : Piece} {run : List Char}

theorem takes_one : (one kind).Takes run ↔ ∃ c, kind c ∧ run = [c] := by
  constructor
  · rintro ⟨hkind, hleast, hmost⟩
    obtain ⟨c, rfl⟩ := List.length_eq_one_iff.mp (Nat.le_antisymm (hmost 1 rfl) hleast)
    exact ⟨c, hkind c List.mem_cons_self, rfl⟩
  · rintro ⟨c, hc, rfl⟩
    exact ⟨List.forall_mem_singleton.mpr hc, Nat.le_refl 1, fun n hn ↦ (Option.some.inj hn).le⟩

theorem takes_any : (many 0 kind).Takes run ↔ ∀ c ∈ run, kind c :=
  ⟨And.left, fun h ↦ ⟨h, Nat.zero_le _, nofun⟩⟩

theorem takes_some : (many 1 kind).Takes run ↔ run ≠ [] ∧ ∀ c ∈ run, kind c :=
  ⟨fun h ↦ ⟨List.ne_nil_of_length_pos h.2.1, h.1⟩,
    fun h ↦ ⟨h.2, List.length_pos_of_ne_nil h.1, nofun⟩⟩

theorem takes_capture : p.capture.Takes run ↔ p.Takes run := Iff.rfl

end Piece

abbrev Expression := List Piece

namespace Expression

open Unicode

def literal (word : List Char) : Expression := word.map fun c ↦ .one (· = c)

def Takes (e : Expression) (runs : List (List Char)) : Prop := List.Forall₂ Piece.Takes e runs

def Begins (e : Expression) (l : List Char) (runs : List (List Char)) : Prop :=
  e.Takes runs ∧ runs.flatten <+: l

def Fills (e : Expression) (l : List Char) (runs : List (List Char)) : Prop :=
  e.Takes runs ∧ runs.flatten = l

/-- Every piece takes as many characters as those before it leave to it: where the runs of another
match first differ in length, they are shorter. -/
def Greedy (e : Expression) (l : List Char) (runs : List (List Char)) : Prop :=
  e.Begins l runs ∧ ∀ other, e.Begins l other →
    other.map List.length = runs.map List.length ∨
      List.Lex (· < ·) (other.map List.length) (runs.map List.length)

/-- The leftmost match of an expression, and the greedy one of those that begin there. -/
def First (e : Expression) (l : List Char) (i : Nat) (runs : List (List Char)) : Prop :=
  e.Greedy (l.drop i) runs ∧ ∀ j < i, ∀ other, ¬ e.Begins (l.drop j) other

def captured : Expression → List (List Char) → List Char
  | p :: e, run :: runs => (if p.captured then run else []) ++ captured e runs
  | _, _ => []

/-- The reader gives what the first match of the expression captures. -/
def Finds (e : Expression) (read : List Char → Option (List Char)) : Prop :=
  ∀ l, (∀ d, read l = some d ↔ ∃ i runs, e.First l i runs ∧ d = e.captured runs) ∧
    (read l = none ↔ ∀ i runs, ¬ e.Begins (l.drop i) runs)

variable {d l word : List Char} {runs other : List (List Char)} {e : Expression} {p : Piece}
variable {read : List Char → Option (List Char)}

theorem takes_nil : Takes [] runs ↔ runs = [] := List.forall₂_nil_left_iff

theorem takes_cons : Takes (p :: e) runs ↔
    ∃ run rest, p.Takes run ∧ e.Takes rest ∧ runs = run :: rest :=
  List.forall₂_cons_left_iff

theorem takes_literal_append : Takes (literal word ++ e) runs ↔
    ∃ rest, e.Takes rest ∧ runs = word.map ([·]) ++ rest := by
  induction word generalizing runs with
  | nil => simp [literal]
  | cons c word ih =>
    rw [literal, List.map_cons, List.cons_append, takes_cons]
    constructor
    · rintro ⟨run, tail, hrun, htail, rfl⟩
      obtain ⟨d, hd, rfl⟩ := Piece.takes_one.mp hrun
      obtain ⟨rest, hrest, rfl⟩ := ih.mp htail
      rw [of_decide_eq_true hd]
      exact ⟨rest, hrest, rfl⟩
    · rintro ⟨rest, hrest, rfl⟩
      exact ⟨_, _, Piece.takes_one.mpr ⟨c, decide_eq_true rfl, rfl⟩, ih.mpr ⟨rest, hrest, rfl⟩, rfl⟩

theorem Begins.eq_of_lengths (h : e.Begins l runs) (ho : e.Begins l other)
    (hlength : runs.map List.length = other.map List.length) : runs = other := by
  have hflat : runs.flatten.length = other.flatten.length := by
    rw [List.length_flatten, List.length_flatten, hlength]
  have hstart := List.prefix_of_prefix_length_le h.2 ho.2 hflat.le
  exact List.eq_iff_flatten_eq.mpr ⟨hstart.eq_of_length hflat, hlength⟩

theorem Greedy.unique (h : e.Greedy l runs) (ho : e.Greedy l other) : runs = other := by
  rcases h.2 other ho.1 with heq | hlt
  · exact h.1.eq_of_lengths ho.1 heq.symm
  · rcases ho.2 runs h.1 with heq | hgt
    · exact h.1.eq_of_lengths ho.1 heq
    · exact absurd hgt (Std.Asymm.asymm _ _ hlt)

/-- A search that tries every place of a text from the left finds the first match, if the reader
finds the greedy one at a place. -/
theorem finds_tails (h : ∀ l, read l = none ∧ (∀ runs, ¬ e.Begins l runs) ∨
    ∃ runs, read l = some (e.captured runs) ∧ e.Greedy l runs) :
    e.Finds fun l ↦ l.tails.findSome? read := by
  have hnone (l : List Char) : read l = none ↔ ∀ runs, ¬ e.Begins l runs := by
    rcases h l with ⟨hread, hnot⟩ | ⟨runs, hread, hruns⟩
    · exact iff_of_true hread hnot
    · exact iff_of_false (by simp [hread]) fun hnot ↦ hnot runs hruns.1
  have hsome (l d : List Char) : read l = some d ↔
      ∃ runs, e.Greedy l runs ∧ d = e.captured runs := by
    rcases h l with ⟨hread, hnot⟩ | ⟨runs, hread, hruns⟩
    · exact iff_of_false (by simp [hread]) fun ⟨runs, hruns, _⟩ ↦ hnot runs hruns.1
    · rw [hread, Option.some_inj]
      constructor
      · exact fun hd ↦ ⟨runs, hruns, hd.symm⟩
      · rintro ⟨other, hother, rfl⟩
        rw [hruns.unique hother]
  intro l
  simp only [findSome?_tails_eq_some_iff, findSome?_tails_eq_none_iff, hnone, hsome]
  refine ⟨fun d ↦ ⟨?_, ?_⟩, trivial⟩
  · rintro ⟨i, ⟨runs, hruns, hd⟩, hbefore⟩
    exact ⟨i, runs, ⟨hruns, hbefore⟩, hd⟩
  · rintro ⟨i, runs, ⟨hruns, hbefore⟩, hd⟩
    exact ⟨i, ⟨runs, hruns, hd⟩, hbefore⟩

/-- The expression `\(B[-_](\d+)\)`. -/
def story : Expression :=
  literal ['(', 'B'] ++ .one (fun c ↦ c = '-' || c = '_') ::
    (Piece.many 1 isDecimalDigit).capture :: (literal [')'] ++ [])

/-- The expression `RI:\W*([^B(][A-Za-z0-9-]*)`. -/
def theme : Expression :=
  literal ['R', 'I', ':'] ++ [.many 0 fun c ↦ !isWord c,
    (Piece.one fun c ↦ c ≠ 'B' && c ≠ '(').capture,
    (Piece.many 0 fun c ↦ c.isAlphanum || c = '-').capture]

/-- The expression `\s*#\s*language\s*:\s*([A-Za-z0-9_-]+)\s*`. -/
def language : Expression :=
  .many 0 isBlank :: (literal ['#'] ++ .many 0 isBlank :: (literal "language".toList ++
    .many 0 isBlank :: (literal [':'] ++ [.many 0 isBlank,
      (Piece.many 1 fun c ↦ c.isAlphanum || c = '_' || c = '-').capture, .many 0 isBlank])))

theorem takes_story : story.Takes runs ↔ ∃ c d, (c = '-' ∨ c = '_') ∧
    (d ≠ [] ∧ ∀ c ∈ d, isDecimalDigit c) ∧ runs = [['('], ['B'], [c], d, [')']] := by
  conv_lhs =>
    simp only [story, takes_literal_append, takes_cons, takes_nil, Piece.takes_one,
      Piece.takes_capture, Piece.takes_some, Bool.or_eq_true, decide_eq_true_eq,
      exists_and_left, ↓existsAndEq, and_assoc, true_and]
  constructor
  · rintro ⟨c, hc, d, hne, hd, hruns⟩
    exact ⟨c, d, hc, ⟨hne, hd⟩, hruns⟩
  · rintro ⟨c, d, hc, ⟨hne, hd⟩, hruns⟩
    exact ⟨c, hc, d, hne, hd, hruns⟩

theorem takes_theme : theme.Takes runs ↔ ∃ w c m, (∀ b ∈ w, isWord b = false) ∧
    (c ≠ 'B' ∧ c ≠ '(') ∧ (∀ b ∈ m, Citation.isThemeChar b) ∧
      runs = [['R'], ['I'], [':'], w, [c], m] := by
  conv_lhs =>
    simp only [theme, takes_literal_append, takes_cons, takes_nil, Piece.takes_one,
      Piece.takes_capture, Piece.takes_any, Bool.and_eq_true, Bool.not_eq_true', decide_eq_true_eq,
      exists_and_left, ↓existsAndEq, and_assoc, true_and]
  constructor
  · rintro ⟨w, hw, c, hB, hb, m, hm, hruns⟩
    exact ⟨w, c, m, hw, ⟨hB, hb⟩, hm, hruns⟩
  · rintro ⟨w, c, m, hw, ⟨hB, hb⟩, hm, hruns⟩
    exact ⟨w, hw, c, hB, hb, m, hm, hruns⟩

theorem captured_story {c : Char} : story.captured [['('], ['B'], [c], d, [')']] = d :=
  List.append_nil d

theorem captured_theme {c : Char} {w m : List Char} :
    theme.captured [['R'], ['I'], [':'], w, [c], m] = c :: m :=
  congrArg (c :: ·) (List.append_nil m)

theorem exists_of_begins_story (h : story.Begins l runs) :
    ∃ c d, Citation.storyAt l = some d ∧ runs = [['('], ['B'], [c], d, [')']] := by
  obtain ⟨hruns, s, rfl⟩ := h
  obtain ⟨c, d, hc, hd, rfl⟩ := takes_story.mp hruns
  refine ⟨c, d, Citation.storyAt_eq_some_iff.mpr ⟨hd, c, s, hc, ?_⟩, rfl⟩
  simp

/-- The story of a text is what the first match of its expression captures. -/
theorem finds_story : story.Finds Citation.storyIn := by
  rw [funext Citation.storyIn_eq]
  refine finds_tails fun l ↦ ?_
  cases hl : Citation.storyAt l with
  | none =>
    refine .inl ⟨rfl, fun runs h ↦ ?_⟩
    obtain ⟨c, d, hd, -⟩ := exists_of_begins_story h
    rw [hl] at hd
    cases hd
  | some d =>
    obtain ⟨hd, c, s, hc, hs⟩ := Citation.storyAt_eq_some_iff.mp hl
    have hruns : story.Begins l [['('], ['B'], [c], d, [')']] :=
      ⟨takes_story.mpr ⟨c, d, hc, hd, rfl⟩, s, by simp [hs]⟩
    refine .inr ⟨_, congrArg some captured_story.symm, hruns, fun other h ↦ ?_⟩
    obtain ⟨_, e, he, rfl⟩ := exists_of_begins_story h
    rw [hl] at he
    rw [← Option.some.inj he]
    exact .inl rfl

variable {c : Char} {m u w : List Char} {n : Nat}

theorem exists_of_begins_theme (h : theme.Begins l runs) : ∃ u w c m,
    l = Citation.marker ++ u ∧ Citation.Opens u w.length ∧
      m <+: (u.drop (w.length + 1)).takeWhile Citation.isThemeChar ∧
      runs = [['R'], ['I'], [':'], w, [c], m] := by
  obtain ⟨hruns, s, rfl⟩ := h
  obtain ⟨w, c, m, hw, hc, hm, rfl⟩ := takes_theme.mp hruns
  refine ⟨w ++ c :: (m ++ s), w, c, m, ?_, ⟨?_, c, ?_, hc⟩, ?_, rfl⟩
  · simp [Citation.marker]
  · rw [List.takeWhile_append_of_pos (by simpa using hw), List.length_append]
    exact Nat.le_add_right _ _
  · simp
  · rw [List.drop_append, List.drop_of_length_le (Nat.le_succ _)]
    simp [List.takeWhile_append_of_pos hm]

theorem begins_theme (hn : Citation.Opens u n) (hc : u[n]? = some c) :
    theme.Begins (Citation.marker ++ u) [['R'], ['I'], [':'], u.take n, [c],
      (u.drop (n + 1)).takeWhile Citation.isThemeChar] := by
  obtain ⟨hlength, b, hb, hopen⟩ := hn
  obtain rfl : b = c := Option.some.inj (hb.symm.trans hc)
  refine ⟨takes_theme.mpr ⟨_, _, _, fun c hc ↦ ?_, hopen, fun c hc ↦ List.mem_takeWhile_imp hc,
    rfl⟩, ?_⟩
  · have hstart := List.prefix_of_prefix_length_le (List.take_prefix n u)
      (List.takeWhile_prefix fun c ↦ !isWord c) ((List.length_take_le n u).trans hlength)
    simpa using List.mem_takeWhile_imp (hstart.subset hc)
  · have hdrop : u.drop n = b :: u.drop (n + 1) := by
      rw [List.drop_eq_getElem?_toList_append, hb]
      rfl
    have hstart : u.take n ++ b :: (u.drop (n + 1)).takeWhile Citation.isThemeChar <+: u := by
      conv_rhs => rw [← List.take_append_drop n u, hdrop]
      exact (List.prefix_append_right_inj _).mpr
        (List.cons_prefix_cons.mpr ⟨rfl, List.takeWhile_prefix _⟩)
    simpa [Citation.marker] using hstart

/-- What is read behind a marker is what the first match of its expression captures. -/
theorem finds_theme : theme.Finds Citation.markedIn := by
  rw [funext Citation.markedIn_eq]
  refine finds_tails fun l ↦ ?_
  cases hl : Citation.markedAt l with
  | none =>
    refine .inl ⟨rfl, fun runs h ↦ ?_⟩
    obtain ⟨u, w, c, m, hu, hw, -⟩ := exists_of_begins_theme h
    obtain ⟨r, hr⟩ := Option.ne_none_iff_exists'.mp fun hnone ↦
      Citation.themeAfter_eq_none_iff.mp hnone _ hw
    rw [Citation.markedAt_eq_some_iff.mpr ⟨u, hu, hr⟩] at hl
    cases hl
  | some r =>
    obtain ⟨u, rfl, hr⟩ := Citation.markedAt_eq_some_iff.mp hl
    obtain ⟨n, c, ⟨hn, hmax⟩, hc, rfl⟩ := Citation.themeAfter_greatest hr
    refine .inr ⟨_, congrArg some captured_theme.symm, begins_theme hn hc, fun other h ↦ ?_⟩
    obtain ⟨v, w, b, m, hv, hw, hm, rfl⟩ := exists_of_begins_theme h
    obtain rfl := List.append_cancel_left hv
    have hle : w.length ≤ n := hmax hw
    obtain ⟨hlt, -⟩ := List.getElem?_eq_some_iff.mp hc
    simp only [List.map_cons, List.length_cons, List.length_nil, List.length_take_of_le hlt.le]
    rcases hle.lt_or_eq with hlt | rfl
    · exact .inr (.cons (.cons (.cons (.rel hlt))))
    · rcases hm.length_le.lt_or_eq with hlt | heq
      · exact .inr (.cons (.cons (.cons (.cons (.cons (.rel hlt))))))
      · exact .inl (by rw [heq])

def named (v w x y code z : List Char) : List (List Char) :=
  v :: ['#'] :: w :: ("language".toList.map ([·]) ++ [x, [':'], y, code, z])

theorem takes_language : language.Takes runs ↔ ∃ v w x y code z,
    (∀ l ∈ [v, w, x, y, z], l.all isBlank) ∧
      (code ≠ [] ∧ ∀ c ∈ code, c.isAlphanum ∨ c = '_' ∨ c = '-') ∧
      runs = named v w x y code z := by
  conv_lhs =>
    simp only [language, takes_literal_append, takes_cons, takes_nil, Piece.takes_capture,
      Piece.takes_any, Piece.takes_some, Bool.or_eq_true, decide_eq_true_eq, or_assoc,
      exists_and_left, ↓existsAndEq, and_assoc, true_and]
  simp only [List.forall_mem_cons, List.all_eq_true]
  constructor
  · rintro ⟨v, hv, w, hw, x, hx, y, hy, code, hne, hcode, z, hz, hruns⟩
    exact ⟨v, w, x, y, code, z, ⟨hv, hw, hx, hy, hz, nofun⟩, ⟨hne, hcode⟩, hruns⟩
  · rintro ⟨v, w, x, y, code, z, ⟨hv, hw, hx, hy, hz, -⟩, ⟨hne, hcode⟩, hruns⟩
    exact ⟨v, hv, w, hw, x, hx, y, hy, code, hne, hcode, z, hz, hruns⟩

variable {v x y z code line : List Char}

theorem flatten_named : (named v w x y code z).flatten =
    v ++ '#' :: (w ++ "language".toList ++ x ++ ':' :: (y ++ code ++ z)) := by
  simp [named]

theorem captured_named : language.captured (named v w x y code z) = code := by
  simp [language, named, literal, captured, Piece.one, Piece.many, Piece.capture]

/-- A line names the language that the expression captures of it, whichever way it fills the line.
-/
theorem names_iff_fills : Gherkin.Header.Names line code ↔
    ∃ runs, language.Fills line runs ∧ code = language.captured runs := by
  constructor
  · rintro ⟨hcode, v, w, x, y, z, hblank, rfl⟩
    exact ⟨_, ⟨takes_language.mpr ⟨v, w, x, y, code, z, hblank, hcode, rfl⟩, flatten_named⟩,
      captured_named.symm⟩
  · rintro ⟨runs, ⟨hruns, rfl⟩, rfl⟩
    obtain ⟨v, w, x, y, code, z, hblank, hcode, rfl⟩ := takes_language.mp hruns
    rw [captured_named, flatten_named]
    exact ⟨hcode, v, w, x, y, z, hblank, rfl⟩

theorem code?_eq_some_iff : Gherkin.Header.code? line = some code ↔
    ∃ runs, language.Fills line runs ∧ code = language.captured runs :=
  Gherkin.Header.code?_eq_some_iff.trans names_iff_fills

theorem code?_eq_none_iff : Gherkin.Header.code? line = none ↔
    ∀ runs, ¬ language.Fills line runs := by
  simp only [Option.eq_none_iff_forall_ne_some, ne_eq, code?_eq_some_iff, not_exists, not_and]
  exact ⟨fun h runs hruns ↦ h _ runs hruns rfl, fun h _ runs hruns _ ↦ h runs hruns⟩

end Expression

end LivingDoc
