import LivingDoc.Proofs.Lexemes
import LivingDoc.Proofs.Margin

namespace LivingDoc.Gherkin.Track

open Text DocString

def docStrings (σ : Track) : List String := σ.bodies.map fun body ↦ .ofList (dedent body)

variable {σ : Track} {B : List String} {p x y rest : List Char}

/-- No fence is open, nothing but white space is on the line, and these are the doc strings above.
-/
structure Fresh (B : List String) (σ : Track) : Prop where
  block : σ.block = none
  docStrings : σ.docStrings = B
  line : σ.line.all Unicode.isBlank

def Quiet (B : List String) (σ : Track) : Prop := ∀ x, Space x → Fresh B (σ.feed (x ++ ['\n']))

def Calm (B : List String) (σ : Track) : Prop := ∀ x, '\n' ∉ x → Fresh B (σ.feed (x ++ ['\n']))

def Idle (B : List String) (σ : Track) (rest : List Char) : Prop :=
  Fresh B σ ∨ Calm B σ ∨ Quiet B σ ∧ rest = []

/-- Outside doc strings, where a doc string may begin. -/
def Ready (B : List String) (σ : Track) (rest : List Char) : Prop :=
  Fresh B σ ∨ Quiet B σ ∧ rest = []

def Ending (B : List String) (σ : Track) (rest : List Char) : Prop := Quiet B σ ∧ AtLineEnd rest

theorem feed_concat_newline (hp : '\n' ∉ p) :
    σ.feed (p ++ ['\n']) = { σ with line := σ.line ++ p }.endLine := feed_newline hp

theorem Fresh.feed_space (h : Fresh B σ) (hx : Space x) : Fresh B (σ.feed x) := by
  rw [feed_line hx.1]
  exact ⟨h.block, h.docStrings, by simp [h.line, hx.2]⟩

theorem Fresh.feed_line (h : Fresh B σ) (hp : '\n' ∉ p) (hf : fenceOf p = none) :
    Fresh B (σ.feed (p ++ ['\n'])) := by
  have hline : fenceOf (σ.line ++ p) = none := by
    rwa [fenceOf, trimStart_of_all h.line]
  have hend : σ.feed (p ++ ['\n']) = ⟨σ.bodies, none, []⟩ := by
    rw [feed_concat_newline hp, endLine, h.block]
    simp [hline]
  rw [hend]
  exact ⟨rfl, h.docStrings, rfl⟩

theorem not_isPrefixOf_firm {fence : List Char} (hf : fence ∈ [quotes, ticks]) (hp : Firm p) :
    fence.isPrefixOf (trimStart p) = false := by
  obtain ⟨-, c, hc, hq, ht⟩ := hp
  obtain ⟨l, hl⟩ := List.head?_eq_some_iff.mp hc
  simp only [List.mem_cons, List.not_mem_nil, or_false] at hf
  rw [hl]
  rcases hf with rfl | rfl
  · simp [quotes, List.isPrefixOf, Ne.symm hq]
  · simp [ticks, List.isPrefixOf, Ne.symm ht]

theorem fenceOf_of_firm (hp : Firm p) : fenceOf p = none := by
  rw [fenceOf, List.find?_eq_none]
  intro f hf
  rw [not_isPrefixOf_firm hf hp]
  exact Bool.false_ne_true

theorem Fresh.quiet (h : Fresh B σ) : Quiet B σ :=
  fun _ hx ↦ h.feed_line hx.1 (fenceOf_of_blank hx.2)

theorem Fresh.calm (h : Fresh B σ) (hp : Firm p) : Calm B (σ.feed p) := by
  intro x hx
  have hpx := hp.append hx
  rw [← feed_append, ← List.append_assoc]
  exact h.feed_line hpx.1 (fenceOf_of_firm hpx)

theorem Calm.feed (h : Calm B σ) (hp : '\n' ∉ p) : Calm B (σ.feed p) := by
  intro x hx
  rw [← feed_append, ← List.append_assoc]
  exact h _ (by simp [hp, hx])

theorem Quiet.feed_space (h : Quiet B σ) (hp : Space p) : Quiet B (σ.feed p) := by
  intro x hx
  rw [← feed_append, ← List.append_assoc]
  exact h _ (hp.append hx)

theorem Calm.quiet (h : Calm B σ) : Quiet B σ := fun x hx ↦ h x hx.1

theorem Idle.feed_space (h : Idle B σ (x ++ rest)) (hx : Space x) : Idle B (σ.feed x) rest := by
  rcases h with h | h | ⟨h, hnil⟩
  · exact .inl (h.feed_space hx)
  · exact .inr (.inl (h.feed hx.1))
  · obtain ⟨rfl, rfl⟩ := List.append_eq_nil_iff.mp hnil
    exact .inr (.inr ⟨h, rfl⟩)

theorem Idle.calm (h : Idle B σ (p ++ rest)) (hp : Firm p) : Calm B (σ.feed p) := by
  rcases h with h | h | ⟨h, hnil⟩
  · exact h.calm hp
  · exact h.feed hp.1
  · exact absurd (List.append_eq_nil_iff.mp hnil).1 hp.ne_nil

theorem Idle.ending (h : Idle B σ (p ++ rest)) (hne : p ≠ []) (hn : '\n' ∉ p)
    (hf : fenceOf p = none) : Quiet B (σ.feed p) := by
  rcases h with h | h | ⟨-, hnil⟩
  · intro x hx
    rw [← feed_append, ← List.append_assoc]
    exact h.feed_line (by simp [hn, hx.1]) (by rwa [fenceOf_append_blank hx.2])
  · exact (h.feed hn).quiet
  · exact absurd (List.append_eq_nil_iff.mp hnil).1 hne

theorem Idle.newline (h : Idle B σ (p ++ ['\n'] ++ rest)) (hp : Space p ∨ Firm p) :
    Fresh B (σ.feed (p ++ ['\n'])) := by
  rcases h with h | h | ⟨h, hnil⟩
  · rcases hp with hp | hp
    · exact h.feed_line hp.1 (fenceOf_of_blank hp.2)
    · exact h.feed_line hp.1 (fenceOf_of_firm hp)
  · exact h p (hp.elim And.left And.left)
  · simp at hnil

theorem Ready.feed_space (h : Ready B σ (x ++ rest)) (hx : Space x) : Ready B (σ.feed x) rest := by
  rcases h with h | ⟨h, hnil⟩
  · exact .inl (h.feed_space hx)
  · obtain ⟨rfl, rfl⟩ := List.append_eq_nil_iff.mp hnil
    exact .inr ⟨h, rfl⟩

theorem Ready.idle (h : Ready B σ rest) : Idle B σ rest := h.imp_right .inr

theorem space_of_atLineEnd (h : AtLineEnd (p ++ '\n' :: rest)) (hp : '\n' ∉ p) : Space p := by
  rcases h with h | ⟨l, h⟩ | ⟨l, h⟩
  · simp at h
  · cases p with
    | nil => exact .nil
    | cons c p =>
      obtain ⟨rfl, -⟩ := List.cons.inj h
      exact absurd List.mem_cons_self hp
  · match p with
    | [] => exact .nil
    | [c] =>
      obtain ⟨rfl, -⟩ := List.cons.inj h
      exact ⟨by decide, by decide⟩
    | c :: d :: p =>
      obtain ⟨-, h⟩ := List.cons.inj h
      obtain ⟨rfl, -⟩ := List.cons.inj h
      exact absurd (List.mem_cons_of_mem _ List.mem_cons_self) hp

theorem atLineEnd_of_append (h : AtLineEnd (x ++ rest)) (hx : '\n' ∉ x) : AtLineEnd rest := by
  rcases h with h | ⟨l, h⟩ | ⟨l, h⟩
  · exact .inl (List.append_eq_nil_iff.mp h).2
  · cases x with
    | nil => exact .inr (.inl ⟨l, h⟩)
    | cons c x =>
      obtain ⟨rfl, -⟩ := List.cons.inj h
      exact absurd List.mem_cons_self hx
  · match x with
    | [] => exact .inr (.inr ⟨l, h⟩)
    | [c] => exact .inr (.inl ⟨l, (List.cons.inj h).2⟩)
    | c :: d :: x =>
      obtain ⟨rfl, -⟩ := List.cons.inj (List.cons.inj h).2
      exact absurd (List.mem_cons_of_mem _ List.mem_cons_self) hx

theorem Ending.feed_space (h : Ending B σ (x ++ rest)) (hx : Space x) : Ending B (σ.feed x) rest :=
  ⟨h.1.feed_space hx, atLineEnd_of_append h.2 hx.1⟩

theorem Ending.newline (h : Ending B σ (p ++ ['\n'] ++ rest)) (hp : '\n' ∉ p) :
    Fresh B (σ.feed (p ++ ['\n'])) := by
  obtain ⟨h, hend⟩ := h
  rw [List.append_assoc] at hend
  exact h p (space_of_atLineEnd hend hp)

/-- Below an opening fence, where `y` is the body so far: on the line of the fence, or on a line
below it, and if anything but white space is on that line, it does not begin with the fence. -/
inductive Inside (fence : List Char) (bodies : List (List Char)) :
    List Char → Track → List Char → Prop
  | opening {w y rest : List Char} : w.all Unicode.isBlank → '\n' ∉ y →
      Inside fence bodies y ⟨bodies, none, w ++ fence ++ y⟩ rest
  | below {u z rest : List Char} : u.getLast? = some '\n' → '\n' ∉ z →
      (¬ z.all Unicode.isBlank → ¬ fence <+: trimStart (z ++ rest)) →
      Inside fence bodies (u ++ z) ⟨bodies, some (fence, u), z⟩ rest

variable {fence : List Char} {bodies : List (List Char)} {c : Char}

theorem Inside.start {w : List Char} (hw : w.all Unicode.isBlank) :
    Inside fence bodies [] ⟨bodies, none, w ++ fence⟩ rest := by
  rw [← List.append_nil (w ++ fence)]
  exact .opening hw List.not_mem_nil

theorem Inside.bodies_eq (h : Inside fence bodies y σ rest) : σ.bodies = bodies := by
  cases h <;> rfl

theorem Inside.begun {u : List Char} (hu : u.getLast? = some '\n') :
    Inside fence bodies u ⟨bodies, some (fence, u), []⟩ rest := by
  have h : Inside fence bodies (u ++ []) ⟨bodies, some (fence, u), []⟩ rest :=
    .below hu List.not_mem_nil fun h ↦ absurd rfl h
  rwa [List.append_nil] at h

theorem Inside.char (h : Inside fence bodies y σ (c :: rest)) (hc : c ≠ '\n')
    (hf : ¬ fence <+: c :: rest) : Inside fence bodies (y ++ [c]) (σ.feed [c]) rest := by
  have hcn : '\n' ∉ [c] := by simpa using Ne.symm hc
  rw [Track.feed_line hcn]
  cases h with
  | opening hw hy =>
    dsimp only
    rw [List.append_assoc]
    exact .opening hw (by simp [hy, Ne.symm hc])
  | @below u z _ hu hz hfz =>
    rw [List.append_assoc]
    refine .below hu (by simp [hz, Ne.symm hc]) fun hblank ↦ ?_
    rw [List.append_assoc, List.singleton_append]
    by_cases hzb : z.all Unicode.isBlank
    · -- The first character on the line that is not blank: here the fence might have stood.
      have hcb : Unicode.isBlank c = false := by simpa [hzb] using hblank
      rwa [trimStart_of_all hzb, trimStart_cons hcb]
    · exact hfz hzb

theorem Inside.line (hf : fence ∈ [quotes, ticks])
    (h : Inside fence bodies y σ (p ++ ['\n'] ++ rest)) (hp : Space p ∨ Firm p) :
    Inside fence bodies (y ++ (p ++ ['\n'])) (σ.feed (p ++ ['\n'])) rest := by
  have hpn : '\n' ∉ p := hp.elim And.left And.left
  rw [feed_concat_newline hpn]
  cases h with
  | @opening w _ _ hw hy =>
    have hline : trimStart (w ++ fence ++ y ++ p) = fence ++ (y ++ p) := by
      rw [List.append_assoc, List.append_assoc, trimStart_of_all hw, trimStart_fence hf]
    have hfence : fenceOf (w ++ fence ++ y ++ p) = some fence := by
      rw [fenceOf, hline, ← trimStart_fence hf]
      exact fenceOf_fence hf (y ++ p)
    rw [endLine]
    dsimp only
    rw [hfence, hline, Option.map_some, List.drop_left' rfl, List.append_assoc]
    exact .begun (by simp)
  | @below u z _ hu hz hfz =>
    have hopen : fence.isPrefixOf (trimStart (z ++ p)) = false := by
      by_cases hzb : z.all Unicode.isBlank
      · rw [trimStart_of_all hzb]
        rcases hp with hp | hp
        · rw [trimStart_eq_nil hp.2]
          simp only [List.mem_cons, List.not_mem_nil, or_false] at hf
          rcases hf with rfl | rfl <;> rfl
        · exact not_isPrefixOf_firm hf hp
      · have hnot := hfz hzb
        rw [Bool.eq_false_iff, Ne, List.isPrefixOf_iff_prefix, trimStart_append hzb]
        rw [trimStart_append hzb, List.append_assoc, ← List.append_assoc] at hnot
        exact fun h ↦ hnot (h.trans (List.prefix_append _ _))
    rw [endLine]
    dsimp only
    rw [hopen, if_neg Bool.false_ne_true]
    simp only [List.append_assoc]
    exact .begun (by simp)

theorem blank_of_append_eq {u u' z p : List Char} (h : u' ++ z = u ++ p) (hz : '\n' ∉ z)
    (hu : u.getLast? = some '\n') (hp : Space p) : z.all Unicode.isBlank := by
  rcases List.suffix_or_suffix_of_suffix (List.suffix_append u' z) (h ▸ List.suffix_append u p) with
    ⟨v, rfl⟩ | ⟨v, rfl⟩
  · have := hp.2
    rw [List.all_append, Bool.and_eq_true] at this
    exact this.2
  · rw [← List.append_assoc, List.append_cancel_right_eq] at h
    cases v with
    | nil => exact hp.2
    | cons c v =>
      subst h
      rw [List.getLast?_append_of_ne_nil _ (List.cons_ne_nil c v)] at hu
      exact absurd (List.mem_append_left _ (List.mem_of_getLast? hu)) hz

theorem Inside.calm (hf : fence ∈ [quotes, ticks]) {u : List Char}
    (h : Inside fence bodies (u ++ p) σ rest) (hu : u.getLast? = some '\n') (hp : Space p) :
    Calm (σ.docStrings ++ [.ofList (dedent (u ++ p))]) (σ.feed fence) := by
  intro x hx
  have hfx : '\n' ∉ fence ++ x := by simp [newline_not_mem hf, hx]
  rw [← feed_append, ← List.append_assoc, feed_concat_newline hfx]
  generalize hy : u ++ p = y at h
  cases h with
  | opening _ hn => exact absurd (hy ▸ List.mem_append_left _ (List.mem_of_getLast? hu)) hn
  | @below u' z _ _ hz _ =>
    have hzb := blank_of_append_eq hy.symm hz hu hp
    have hclose : fence.isPrefixOf (trimStart (z ++ (fence ++ x))) = true := by
      rw [trimStart_of_all hzb, trimStart_fence hf]
      exact List.isPrefixOf_iff_prefix.mpr (List.prefix_append _ _)
    have htake : (z ++ (fence ++ x)).takeWhile Unicode.isBlank = z := by
      rw [List.takeWhile_append_of_pos (List.all_eq_true.mp hzb)]
      simp only [List.mem_cons, List.not_mem_nil, or_false] at hf
      rcases hf with rfl | rfl <;> exact List.append_nil z
    have hend : endLine ⟨bodies, some (fence, u'), z ++ (fence ++ x)⟩ =
        ⟨bodies ++ [u' ++ z], none, []⟩ := by
      simp [endLine, hclose, htake]
    rw [hend]
    exact ⟨rfl, by simp [docStrings], rfl⟩

end LivingDoc.Gherkin.Track
