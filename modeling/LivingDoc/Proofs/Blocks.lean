import LivingDoc.Proofs.Scan

namespace LivingDoc.Gherkin

open Text

namespace DocString

/-- Line `i`, the first being line 0, begins with a fence. -/
def Begins (ls : List (List Char)) (fence : List Char) (i : Nat) : Prop :=
  ∃ line, ls[i]? = some line ∧ fence <+: trimStart line

/-- A block opens at line `i`: the line begins with the fence, and the blocks that open above it
have also been closed above it. -/
def Opens (ls : List (List Char)) (fence : List Char) (i : Nat) : Prop :=
  fence ∈ [quotes, ticks] ∧ Begins ls fence i ∧
    ∀ j < i, ∀ f, Opens ls f j → ∃ k, j < k ∧ k < i ∧ Begins ls f k

/-- Line `i` lies in a block, be it the first or the last line of it. -/
def InBlock (ls : List (List Char)) (i : Nat) : Prop :=
  ∃ j ≤ i, ∃ fence, Opens ls fence j ∧ ∀ k, j < k → k < i → ¬ Begins ls fence k

def Unclosed (ls : List (List Char)) (fence : List Char) (i : Nat) : Prop :=
  ∃ j < i, Opens ls fence j ∧ ∀ k, j < k → k < i → ¬ Begins ls fence k

variable {ls : List (List Char)} {fence f g line : List Char} {i : Nat}

theorem opens_iff : Opens ls fence i ↔
    fence ∈ [quotes, ticks] ∧ Begins ls fence i ∧ ∀ f, ¬ Unclosed ls f i := by
  rw [Opens]
  refine and_congr_right fun _ ↦ and_congr_right fun _ ↦ ?_
  constructor
  · rintro h f ⟨j, hj, ho, hk⟩
    obtain ⟨k, hjk, hki, hb⟩ := h j hj f ho
    exact hk k hjk hki hb
  · intro h j hj f ho
    by_contra hk
    exact h f ⟨j, hj, ho, fun k hjk hki hb ↦ hk ⟨k, hjk, hki, hb⟩⟩

theorem inBlock_iff : InBlock ls i ↔ ∃ f, Unclosed ls f i ∨ Opens ls f i := by
  constructor
  · rintro ⟨j, hj, f, ho, hk⟩
    rcases Nat.lt_or_eq_of_le hj with hlt | rfl
    · exact ⟨f, .inl ⟨j, hlt, ho, hk⟩⟩
    · exact ⟨f, .inr ho⟩
  · rintro ⟨f, ⟨j, hj, ho, hk⟩ | ho⟩
    · exact ⟨j, Nat.le_of_lt hj, f, ho, hk⟩
    · exact ⟨i, Nat.le_refl i, f, ho, fun k hk hk' ↦ absurd hk (Nat.lt_asymm hk')⟩

theorem unclosed_succ : Unclosed ls fence (i + 1) ↔
    Opens ls fence i ∨ Unclosed ls fence i ∧ ¬ Begins ls fence i := by
  constructor
  · rintro ⟨j, hj, ho, hk⟩
    rcases Nat.lt_or_eq_of_le (Nat.le_of_lt_succ hj) with hlt | rfl
    · exact .inr ⟨⟨j, hlt, ho, fun k hjk hki ↦ hk k hjk (Nat.lt_succ_of_lt hki)⟩,
        hk i hlt (Nat.lt_succ_self i)⟩
    · exact .inl ho
  · rintro (ho | ⟨⟨j, hj, ho, hk⟩, hb⟩)
    · exact ⟨i, Nat.lt_succ_self i, ho, fun k hik hki ↦ by omega⟩
    · refine ⟨j, Nat.lt_succ_of_lt hj, ho, fun k hjk hki ↦ ?_⟩
      rcases Nat.lt_or_eq_of_le (Nat.le_of_lt_succ hki) with hlt | rfl
      · exact hk k hjk hlt
      · exact hb

theorem begins_iff (hi : ls[i]? = some line) : Begins ls fence i ↔ fence <+: trimStart line := by
  simp [Begins, hi]

theorem fence_unique (hf : f ∈ [quotes, ticks]) (hg : g ∈ [quotes, ticks]) (hfl : f <+: line)
    (hgl : g <+: line) : f = g := by
  have hlength : ∀ f ∈ [quotes, ticks], f.length = 3 := by decide
  have heq : f.length = g.length := by rw [hlength f hf, hlength g hg]
  exact (List.prefix_of_prefix_length_le hfl hgl heq.le).eq_of_length heq

theorem prefix_of_fenceOf (h : fenceOf line = some fence) : fence <+: trimStart line :=
  List.isPrefixOf_iff_prefix.mp (isPrefixOf_of_fenceOf h)

theorem fenceOf_eq_some_iff :
    fenceOf line = some fence ↔ fence ∈ [quotes, ticks] ∧ fence <+: trimStart line := by
  constructor
  · intro h
    exact ⟨mem_of_fenceOf h, prefix_of_fenceOf h⟩
  · rintro ⟨hf, hl⟩
    cases h : fenceOf line with
    | none =>
      have hnone := List.find?_eq_none.mp h fence hf
      exact absurd (List.isPrefixOf_iff_prefix.mpr hl) hnone
    | some f => rw [fence_unique (mem_of_fenceOf h) hf (prefix_of_fenceOf h) hl]

end DocString

namespace Comment

open DocString

variable {ls : List (List Char)} {fence line : List Char} {i : Nat}

theorem fenceBelow_take_succ (hi : ls[i]? = some line) :
    fenceBelow none (ls.take (i + 1)) = fenceAfter (fenceBelow none (ls.take i)) line := by
  rw [List.take_add_one, hi, fenceBelow, List.foldl_append]
  rfl

/-- The fence that the search for comments finds open above a line is the one of the block that has
not been closed above it. -/
theorem unclosed_iff (hi : i ≤ ls.length) :
    Unclosed ls fence i ↔ fenceBelow none (ls.take i) = some fence := by
  induction i generalizing fence with
  | zero => exact ⟨fun ⟨_, h, _⟩ ↦ absurd h (Nat.not_lt_zero _), nofun⟩
  | succ i ih =>
    have hline : ls[i]? = some ls[i] := List.getElem?_eq_getElem hi
    rw [unclosed_succ, opens_iff, begins_iff hline, fenceBelow_take_succ hline]
    simp only [ih (Nat.le_of_succ_le hi)]
    cases fenceBelow none (ls.take i) with
    | none => simp [fenceAfter, fenceOf_eq_some_iff]
    | some f =>
      -- A block is open above the line, so the line opens none and at most closes that one.
      rw [fenceAfter, ← List.isPrefixOf_iff_prefix]
      constructor
      · rintro (⟨-, -, hnone⟩ | ⟨hf, hopen⟩)
        · exact absurd rfl (hnone f)
        · obtain rfl := Option.some.inj hf
          rw [if_neg hopen]
      · intro h
        split at h
        · cases h
        · next hopen =>
          obtain rfl := Option.some.inj h
          exact .inr ⟨rfl, hopen⟩

theorem inBlock_iff_of_hash {l : List Char} (hi : ls[i]? = some line)
    (hl : trimStart line = '#' :: l) :
    InBlock ls i ↔ fenceBelow none (ls.take i) ≠ none := by
  have hle : i ≤ ls.length := Nat.le_of_lt (List.getElem?_eq_some_iff.mp hi).1
  have hnot (f : List Char) : ¬ Opens ls f i := by
    rw [opens_iff, begins_iff hi, ← and_assoc, ← fenceOf_eq_some_iff, fenceOf_hash hl]
    exact nofun
  rw [inBlock_iff, Option.ne_none_iff_exists']
  simp only [hnot, or_false, unclosed_iff hle]

variable {header : Option Nat} {number : Nat}

theorem mem_among_iff {fence : Option (List Char)} {c : Comment} :
    c ∈ among header fence number ls ↔
      ∃ i line, ls[i]? = some line ∧ fenceBelow fence (ls.take i) = none ∧
        header ≠ some (number + i) ∧ ofLine? (number + i) line = some c := by
  induction ls generalizing fence number with
  | nil => cases fence <;> simp [among]
  | cons first ls ih =>
    have hsucc (i : Nat) : number + 1 + i = number + (i + 1) := by omega
    rw [among_cons, List.mem_append, ih]
    constructor
    · rintro (h | ⟨i, line, hi, hf, hh, hc⟩)
      · split at h
        · next hf => exact ⟨0, first, rfl, hf.1, hf.2, Option.mem_toList.mp h⟩
        · cases h
      · rw [hsucc] at hh hc
        exact ⟨i + 1, line, hi, hf, hh, hc⟩
    · rintro ⟨i, line, hi, hf, hh, hc⟩
      cases i with
      | zero =>
        obtain rfl : first = line := Option.some.inj hi
        exact .inl (by rwa [if_pos ⟨hf, hh⟩, Option.mem_toList])
      | succ i =>
        rw [← hsucc] at hh hc
        exact .inr ⟨i, line, hi, hf, hh, hc⟩

theorem pairwise_among {fence : Option (List Char)} : (among header fence number ls).Pairwise
    fun c d ↦ c.position.line < d.position.line := by
  induction ls generalizing fence number with
  | nil => cases fence <;> exact .nil
  | cons line ls ih =>
    rw [among_cons]
    split
    · refine List.pairwise_append.mpr ⟨?_, ih, fun c hc d hd ↦ ?_⟩
      · cases ofLine? number line <;> simp
      · obtain ⟨w, l, -, -, rfl⟩ := ofLine?_eq_some_iff.mp (Option.mem_toList.mp hc)
        exact (line_of_mem_among hd).1
    · exact ih

variable {above body below : List (List Char)} {opening closing : List Char}

theorem among_body (hbody : ∀ line ∈ body, ¬ fence <+: trimStart line)
    (hclosing : fence <+: trimStart closing) :
    among header (some fence) number (body ++ closing :: below) =
      among header none (number + body.length + 1) below := by
  induction body generalizing number with
  | nil => rw [List.nil_append, among, if_pos (List.isPrefixOf_iff_prefix.mpr hclosing)]; rfl
  | cons line body ih =>
    obtain ⟨hline, hbody⟩ := List.forall_mem_cons.mp hbody
    have hlength : number + (line :: body).length + 1 = number + 1 + body.length + 1 := by
      rw [List.length_cons]
      omega
    rw [List.cons_append, among, if_neg (List.isPrefixOf_iff_prefix.not.mpr hline), ih hbody,
      hlength]

theorem among_closed (habove : fenceBelow none above = none)
    (hopening : fenceOf opening = some fence)
    (hbody : ∀ line ∈ body, ¬ fence <+: trimStart line) (hclosing : fence <+: trimStart closing) :
    among header none number (above ++ opening :: (body ++ closing :: below)) =
      among header none number above ++
        among header none (number + above.length + body.length + 2) below := by
  have hlength : number + above.length + 1 + body.length + 1 =
      number + above.length + body.length + 2 := by omega
  rw [among_append, habove, among, hopening]
  dsimp only
  rw [among_body hbody hclosing, hlength]

theorem mem_ofText_iff {text : List Char} {c : Comment} : c ∈ ofText header text ↔
    ∃ i w l, (lines text)[i]? = some (w ++ '#' :: l) ∧ w.all Unicode.isBlank ∧
      ¬ InBlock (lines text) i ∧ header ≠ some (i + 1) ∧
      c = ⟨.ofList (trim (w ++ '#' :: l)), ⟨i + 1, w.length + 1⟩⟩ := by
  have hhash : Unicode.isBlank '#' = false := by decide
  rw [ofText, mem_among_iff]
  simp only [Nat.add_comm 1]
  constructor
  · rintro ⟨i, line, hi, hf, hh, hc⟩
    obtain ⟨w, l, hw, rfl, rfl⟩ := ofLine?_eq_some_iff.mp hc
    refine ⟨i, w, l, hi, hw, ?_, hh, rfl⟩
    rw [inBlock_iff_of_hash hi (trimStart_blank_append hw hhash l), hf]
    exact fun h ↦ h rfl
  · rintro ⟨i, w, l, hi, hw, hb, hh, rfl⟩
    rw [inBlock_iff_of_hash hi (trimStart_blank_append hw hhash l), not_not] at hb
    exact ⟨i, _, hi, hb, hh, ofLine?_eq_some_iff.mpr ⟨w, l, hw, rfl, rfl⟩⟩

/-- Where a block opens no fence is open. -/
theorem fences_of_opens (h : Opens (above ++ opening :: below) fence above.length) :
    fenceBelow none above = none ∧ fenceOf opening = some fence := by
  have hline : (above ++ opening :: below)[above.length]? = some opening := by simp
  have hle : above.length ≤ (above ++ opening :: below).length := by simp
  rw [opens_iff, begins_iff hline, ← and_assoc, ← fenceOf_eq_some_iff] at h
  refine ⟨Option.eq_none_iff_forall_ne_some.mpr fun f hf ↦ ?_, h.1⟩
  refine h.2 f ((unclosed_iff hle).mpr ?_)
  rwa [List.take_left]

/-- The comments of a text, in the order of their lines, are its lines outside blocks that begin
with a number sign and are not the header; the lines within a block that is closed can be exchanged.
-/
theorem ofText_outside (header : Option Nat) (text : List Char) :
    (ofText header text).Pairwise (fun c d ↦ c.position.line < d.position.line) ∧
    (∀ c, c ∈ ofText header text ↔ ∃ i w l, (lines text)[i]? = some (w ++ '#' :: l) ∧
      w.all Unicode.isBlank ∧ ¬ InBlock (lines text) i ∧ header ≠ some (i + 1) ∧
      c = ⟨.ofList (trim (w ++ '#' :: l)), ⟨i + 1, w.length + 1⟩⟩) ∧
    ∀ text' above opening body body' closing below fence,
      lines text = above ++ opening :: (body ++ closing :: below) →
      lines text' = above ++ opening :: (body' ++ closing :: below) →
      Opens (lines text) fence above.length → fence <+: trimStart closing →
      (∀ line ∈ body ++ body', ¬ fence <+: trimStart line) → body.length = body'.length →
      ofText header text = ofText header text' := by
  refine ⟨pairwise_among, fun c ↦ mem_ofText_iff, ?_⟩
  intro text' above opening body body' closing below fence
    htext htext' hopens hclosing hbody hlength
  rw [htext] at hopens
  obtain ⟨habove, hopening⟩ := fences_of_opens hopens
  obtain ⟨hbody, hbody'⟩ := List.forall_mem_append.mp hbody
  rw [ofText, ofText, htext, htext', among_closed habove hopening hbody hclosing,
    among_closed habove hopening hbody' hclosing, hlength]

theorem ofText_outside_nested :
    Opens (lines "\"\"\"\n```\n\"\"\"\n```\n# a\n```\n# b".toList) ticks 3 ∧
      ofText none "\"\"\"\n```\n\"\"\"\n```\n# a\n```\n# b".toList =
        ofText none "\"\"\"\n```\n\"\"\"\n```\n\"\"\"\n```\n# b".toList := by
  have hopens : Opens (lines "\"\"\"\n```\n\"\"\"\n```\n# a\n```\n# b".toList) ticks 3 := by
    have hnone : fenceBelow none
        ((lines "\"\"\"\n```\n\"\"\"\n```\n# a\n```\n# b".toList).take 3) = none := by decide
    refine opens_iff.mpr ⟨by decide, ⟨ticks, by decide, List.prefix_rfl⟩, fun f hf ↦ ?_⟩
    rw [unclosed_iff (by decide), hnone] at hf
    cases hf
  refine ⟨hopens,
    (ofText_outside none _).2.2 _ [quotes, ticks, quotes] ticks ["# a".toList] [quotes] ticks
    ["# b".toList] ticks (by decide) (by decide) hopens List.prefix_rfl (by decide) rfl⟩

end Comment

end LivingDoc.Gherkin
