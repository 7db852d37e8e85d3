import LivingDoc.Proofs.Blocks

namespace LivingDoc

namespace Unicode

theorem isBlank_of_isAlphanum {c : Char} (h : c.isAlphanum) : isBlank c = false := by
  have hcode : (65 ≤ c.toNat ∧ c.toNat ≤ 90 ∨ 97 ≤ c.toNat ∧ c.toNat ≤ 122) ∨
      48 ≤ c.toNat ∧ c.toNat ≤ 57 := by
    change (decide (c.val ≥ 'A'.val ∧ c.val ≤ 'Z'.val) ||
      (decide (c.val ≥ 'a'.val) && decide (c.val ≤ 'z'.val)) ||
      (decide (c.val ≥ '0'.val) && decide (c.val ≤ '9'.val))) = true at h
    simpa [UInt32.le_iff_toNat_le] using h
  rw [Bool.eq_false_iff]
  intro hb
  simp only [isBlank, inRanges, blanks, Bool.and_eq_true, Bool.or_eq_true, decide_eq_true_eq] at hb
  omega

end Unicode

namespace Text

open Unicode

variable {l w y z : List Char}

theorem trimEnd_of_firm (h : ∀ c ∈ w, isBlank c = false) : trimEnd w = w := by
  induction w with
  | nil => rfl
  | cons c w ih =>
    obtain ⟨hc, hw⟩ := List.forall_mem_cons.mp h
    rw [trimEnd_cons hc, ih hw]

theorem trim_of_firm (hy : y.all isBlank) (hz : z.all isBlank) (h : ∀ c ∈ w, isBlank c = false)
    (hne : w ≠ []) : trim (y ++ w ++ z) = w := by
  obtain ⟨c, w, rfl⟩ := List.exists_cons_of_ne_nil hne
  have hc := h c List.mem_cons_self
  rw [trim, List.append_assoc, trimStart_of_all hy, List.cons_append, trimStart_cons hc,
    ← List.cons_append, trimEnd_append_blank hz, trimEnd_of_firm h]

theorem exists_trim (l : List Char) :
    ∃ y z : List Char, y.all isBlank ∧ z.all isBlank ∧ l = y ++ trim l ++ z := by
  refine ⟨_, _, List.all_takeWhile, ?_, eq_trim_append l⟩
  rw [List.all_reverse]
  exact List.all_takeWhile

end Text

namespace Gherkin.Header

open Text Unicode

/-- A line that names a language, such as `# language: en`; white space may stand before and behind
each of its parts. -/
def Names (line code : List Char) : Prop :=
  (code ≠ [] ∧ ∀ c ∈ code, c.isAlphanum ∨ c = '_' ∨ c = '-') ∧
    ∃ v w x y z : List Char, (∀ b ∈ [v, w, x, y, z], b.all isBlank) ∧
      line = v ++ '#' :: (w ++ "language".toList ++ x ++ ':' :: (y ++ code ++ z))

/-- A line that is blank or, white space apart, begins with a number sign. -/
def Leads (line : List Char) : Prop :=
  line.all isBlank ∨ ∃ w l : List Char, w.all isBlank ∧ line = w ++ '#' :: l

variable {c : Char} {code l line rest word : List Char}

theorem Names.leads (h : Names line code) : Leads line := by
  obtain ⟨-, v, w, x, y, z, hblank, rfl⟩ := h
  exact .inr ⟨v, _, hblank v List.mem_cons_self, rfl⟩

theorem Names.comment (h : Names line code) (n : Nat) :
    ∃ c, Comment.ofLine? n line = some c ∧ c.position.line = n := by
  obtain ⟨-, v, w, x, y, z, hblank, hline⟩ := h
  exact ⟨_, Comment.ofLine?_eq_some_iff.mpr ⟨v, _, hblank v List.mem_cons_self, hline, rfl⟩, rfl⟩

theorem mayPrecede_iff : mayPrecede line ↔ Leads line := by
  constructor
  · intro h
    cases hl : trimStart line with
    | nil => exact .inl (List.all_eq_true.mpr (List.dropWhile_eq_nil_iff.mp hl))
    | cons c l =>
      obtain ⟨hc, w, hw, hline⟩ := trimStart_eq_cons_iff.mp hl
      rw [mayPrecede, trim, hl, trimEnd_cons hc] at h
      obtain rfl : c = '#' := of_decide_eq_true h
      exact .inr ⟨w, l, hw, hline⟩
  · rintro (hb | ⟨w, l, hw, rfl⟩)
    · rw [mayPrecede, trim, trimStart_eq_nil hb]
      rfl
    · exact mayPrecede_append hw l

theorem after?_eq_some_iff (hc : isBlank c = false) : after? (c :: word) l = some rest ↔
    ∃ w : List Char, w.all isBlank ∧ l = w ++ (c :: word ++ rest) := by
  rw [after?]
  constructor
  · intro h
    split at h
    · next hprefix =>
      obtain ⟨r, hr⟩ := List.isPrefixOf_iff_prefix.mp hprefix
      rw [← hr, List.drop_left] at h
      obtain rfl := Option.some.inj h
      exact (trimStart_eq_cons_iff.mp hr.symm).2
    · cases h
  · rintro ⟨w, hw, rfl⟩
    have hstart : trimStart (w ++ (c :: word ++ rest)) = c :: word ++ rest :=
      trimStart_blank_append hw hc _
    rw [hstart, if_pos (List.isPrefixOf_iff_prefix.mpr (List.prefix_append _ _)), List.drop_left]

theorem code?_eq_some_iff : code? line = some code ↔ Names line code := by
  have hchar (c : Char) : isCodeChar c ↔ c.isAlphanum ∨ c = '_' ∨ c = '-' := by
    simp only [isCodeChar, Bool.or_eq_true, decide_eq_true_eq, or_assoc]
  simp only [code?, Option.bind_eq_bind, Option.bind_eq_some_iff,
    after?_eq_some_iff (show isBlank '#' = false by decide),
    after?_eq_some_iff (show isBlank 'l' = false by decide),
    after?_eq_some_iff (show isBlank ':' = false by decide)]
  constructor
  · rintro ⟨l₁, ⟨v, hv, rfl⟩, l₂, ⟨w, hw, rfl⟩, l₃, ⟨x, hx, rfl⟩, h⟩
    split at h
    · next hcode =>
      obtain ⟨y, z, hy, hz, hl⟩ := exists_trim l₃
      rw [Option.some.inj h] at hl hcode
      simp only [Bool.and_eq_true, Bool.not_eq_true', List.isEmpty_eq_false_iff, List.all_eq_true,
        hchar] at hcode
      refine ⟨hcode, v, w, x, y, z, ?_, ?_⟩
      · simp only [List.forall_mem_cons]
        exact ⟨hv, hw, hx, hy, hz, nofun⟩
      · rw [hl]
        simp
    · cases h
  · rintro ⟨hcode, v, w, x, y, z, hblank, rfl⟩
    simp only [List.forall_mem_cons] at hblank
    obtain ⟨hv, hw, hx, hy, hz, -⟩ := hblank
    have hfirm : ∀ c ∈ code, isBlank c = false := by
      intro c hc
      rcases hcode.2 c hc with h | rfl | rfl
      · exact isBlank_of_isAlphanum h
      · decide
      · decide
    refine ⟨_, ⟨v, hv, rfl⟩, _, ⟨w, hw, ?_⟩, y ++ code ++ z, ⟨x, hx, rfl⟩, ?_⟩
    · simp
    · rw [trim_of_firm hy hz hfirm hcode.1, if_pos]
      simpa [hchar] using hcode

variable {number : Nat} {ls above below : List (List Char)} {h : Header}

theorem among_cons_of_names (hline : Names line code) :
    among number (line :: ls) = some ⟨number, .ofList code⟩ := by
  rw [among, if_pos (mayPrecede_iff.mpr hline.leads), code?_eq_some_iff.mpr hline]

theorem among_cons_of_leads (hline : Leads line) (hnot : ∀ code, ¬ Names line code) :
    among number (line :: ls) = among (number + 1) ls := by
  have hcode : code? line = none := by
    rw [Option.eq_none_iff_forall_ne_some]
    exact fun code hcode ↦ hnot code (code?_eq_some_iff.mp hcode)
  rw [among, if_pos (mayPrecede_iff.mpr hline), hcode]

theorem among_cons_of_not_leads (hline : ¬ Leads line) : among number (line :: ls) = none := by
  rw [among, if_neg (mayPrecede_iff.not.mpr hline)]

theorem among_append_of_leads (habove : ∀ l ∈ above, Leads l ∧ ∀ code, ¬ Names l code) :
    among number (above ++ ls) = among (number + above.length) ls := by
  induction above generalizing number with
  | nil => rfl
  | cons l above ih =>
    obtain ⟨hl, habove⟩ := List.forall_mem_cons.mp habove
    rw [List.cons_append, among_cons_of_leads hl.1 hl.2, ih habove, List.length_cons, Nat.add_assoc,
      Nat.add_comm 1]

theorem exists_of_among (hh : among number ls = some h) : ∃ above line below,
    ls = above ++ line :: below ∧ h.line = number + above.length ∧ Names line h.code.toList ∧
      ∀ l ∈ above, Leads l ∧ ∀ code, ¬ Names l code := by
  induction ls generalizing number with
  | nil => cases hh
  | cons first ls ih =>
    by_cases hnames : ∃ code, Names first code
    · obtain ⟨code, hnames⟩ := hnames
      rw [among_cons_of_names hnames] at hh
      obtain rfl := Option.some.inj hh
      exact ⟨[], first, ls, rfl, rfl, by rwa [String.toList_ofList], nofun⟩
    · by_cases hl : Leads first
      · have hnot := not_exists.mp hnames
        rw [among_cons_of_leads hl hnot] at hh
        obtain ⟨above, line, below, rfl, hline, hcode, habove⟩ := ih hh
        refine ⟨first :: above, line, below, rfl, ?_, hcode,
          List.forall_mem_cons.mpr ⟨⟨hl, hnot⟩, habove⟩⟩
        rw [hline, List.length_cons]
        omega
      · rw [among_cons_of_not_leads hl] at hh
        cases hh

theorem among_ne_none (habove : ∀ l ∈ above, Leads l) (hline : Names line code) :
    among number (above ++ line :: below) ≠ none := by
  induction above generalizing number with
  | nil =>
    rw [List.nil_append, among_cons_of_names hline]
    exact nofun
  | cons l above ih =>
    obtain ⟨hl, habove⟩ := List.forall_mem_cons.mp habove
    rw [List.cons_append]
    by_cases hnames : ∃ code, Names l code
    · obtain ⟨code, hnames⟩ := hnames
      rw [among_cons_of_names hnames]
      exact nofun
    · rw [among_cons_of_leads hl (not_exists.mp hnames)]
      exact ih habove

theorem fenceOf_of_leads (hline : Leads line) : DocString.fenceOf line = none := by
  rcases hline with hb | ⟨w, l, hw, rfl⟩
  · exact DocString.fenceOf_of_blank hb
  · exact DocString.fenceOf_hash (trimStart_blank_append hw (by decide) l)

theorem fenceBelow_of_leads (habove : ∀ l ∈ above, Leads l) :
    Comment.fenceBelow none above = none := by
  induction above with
  | nil => rfl
  | cons l above ih =>
    obtain ⟨hl, habove⟩ := List.forall_mem_cons.mp habove
    rw [Comment.fenceBelow, List.foldl_cons, Comment.fenceAfter, fenceOf_of_leads hl]
    exact ih habove

theorem comments_of_names {n : Nat} (hn : n = 1 + above.length) (habove : ∀ l ∈ above, Leads l)
    (hline : Names line code) : ∃ cs c ds,
      Comment.among none none 1 (above ++ line :: below) = cs ++ c :: ds ∧ c.position.line = n ∧
      (∀ d ∈ cs ++ ds, d.position.line ≠ n) ∧
      Comment.among (some n) none 1 (above ++ line :: below) = cs ++ ds := by
  obtain ⟨c, hc, hcn⟩ := hline.comment n
  have hsplit (header : Option Nat) :
      Comment.among header none 1 (above ++ line :: below) =
        Comment.among header none 1 above ++
          ((if header ≠ some n then (Comment.ofLine? n line).toList else []) ++
            Comment.among header (Comment.fenceAfter none line) (n + 1) below) := by
    rw [Comment.among_append, fenceBelow_of_leads habove, ← hn, Comment.among_cons]
    simp only [true_and]
  refine ⟨Comment.among none none 1 above, c,
    Comment.among none (Comment.fenceAfter none line) (n + 1) below, ?_, hcn, ?_, ?_⟩
  · rw [hsplit, if_pos nofun, hc]
    rfl
  · intro d hd hdn
    rcases List.mem_append.mp hd with hd | hd
    · have hlt := (Comment.line_of_mem_among hd).2
      omega
    · have hlt := (Comment.line_of_mem_among hd).1
      omega
  · rw [hsplit, if_neg (fun h ↦ h rfl), List.nil_append]
    congr 1
    · refine Comment.among_congr fun i _ hi ↦ iff_of_false ?_ nofun
      intro h
      have hni := Option.some.inj h
      omega
    · refine Comment.among_congr fun i hi _ ↦ iff_of_false ?_ nofun
      intro h
      have hni := Option.some.inj h
      omega

/-- The header of a text is the first line that names a language in the leading run of lines that
are blank or begin with a number sign. It is one of the comments that are found where no header is
known, and the only one that is missing where it is. -/
theorem ofText?_first (text : List Char) :
    (∀ h : Header, ofText? text = some h ↔ ∃ above line below, lines text = above ++ line :: below ∧
      h.line = above.length + 1 ∧ Names line h.code.toList ∧
      ∀ l ∈ above, Leads l ∧ ∀ code, ¬ Names l code) ∧
    (ofText? text = none ↔ ∀ above line below code, lines text = above ++ line :: below →
      (∀ l ∈ above, Leads l) → ¬ Names line code) ∧
    ∀ h ∈ ofText? text, ∃ cs c ds,
      Comment.ofText none text = cs ++ c :: ds ∧ c.position.line = h.line ∧
      (∀ d ∈ cs ++ ds, d.position.line ≠ h.line) ∧
      Comment.ofText (some h.line) text = cs ++ ds := by
  refine ⟨fun h ↦ ⟨fun hh ↦ ?_, ?_⟩, ⟨?_, fun hnone ↦ ?_⟩, fun h hh ↦ ?_⟩
  · simpa only [Nat.add_comm 1] using exists_of_among hh
  · rintro ⟨above, line, below, htext, hline, hnames, habove⟩
    rw [ofText?, htext, among_append_of_leads habove, among_cons_of_names hnames,
      String.ofList_toList, Nat.add_comm, ← hline]
  · rintro hnone above line below code htext habove hnames
    rw [ofText?, htext] at hnone
    exact among_ne_none habove hnames hnone
  · by_contra hsome
    obtain ⟨h, hh⟩ := Option.ne_none_iff_exists'.mp hsome
    obtain ⟨above, line, below, htext, -, hnames, habove⟩ := exists_of_among hh
    exact hnone above line below _ htext (fun l hl ↦ (habove l hl).1) hnames
  · obtain ⟨above, line, below, htext, hline, hnames, habove⟩ := exists_of_among hh
    rw [Comment.ofText, Comment.ofText, htext]
    exact comments_of_names hline (fun l hl ↦ (habove l hl).1) hnames

theorem ofText?_first_repeated :
    ofText? "# a\n\n #language : fr\n# language: de\nFeature: f".toList = some ⟨3, "fr"⟩ ∧
      ∃ cs c ds,
        Comment.ofText none "# a\n\n #language : fr\n# language: de\nFeature: f".toList =
          cs ++ c :: ds ∧ c.position.line = 3 ∧ (∀ d ∈ cs ++ ds, d.position.line ≠ 3) ∧
        Comment.ofText (some 3) "# a\n\n #language : fr\n# language: de\nFeature: f".toList =
          cs ++ ds := by
  have hheader : ofText? "# a\n\n #language : fr\n# language: de\nFeature: f".toList =
      some ⟨3, "fr"⟩ := by decide
  exact ⟨hheader, (ofText?_first _).2.2 _ hheader⟩

end Gherkin.Header

end LivingDoc
