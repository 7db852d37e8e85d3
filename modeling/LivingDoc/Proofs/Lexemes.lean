import LivingDoc.Gherkin.Grammar
import LivingDoc.Proofs.Fences
import LivingDoc.Proofs.Reading

namespace LivingDoc

namespace Text

/-- A piece of a line that has begun with something else than white space and fences. -/
def Firm (x : List Char) : Prop :=
  '\n' ∉ x ∧ ∃ c ∈ (trimStart x).head?, c ≠ '"' ∧ c ≠ '\x60'

instance (x : List Char) : Decidable (Firm x) :=
  decidable_of_iff ('\n' ∉ x ∧ (trimStart x).head?.any fun c ↦ c ≠ '"' && c ≠ '\x60')
    (by simp [Firm, Option.any_eq_true])

def AtLineEnd (rest : List Char) : Prop :=
  rest = [] ∨ (∃ l, rest = '\n' :: l) ∨ ∃ l, rest = '\r' :: '\n' :: l

variable {x y w : List Char}

theorem Firm.append (hx : Firm x) (hy : '\n' ∉ y) : Firm (x ++ y) := by
  obtain ⟨hn, c, hc, hfence⟩ := hx
  refine ⟨by simp [hn, hy], c, ?_, hfence⟩
  have hne : ¬ x.all Unicode.isBlank := fun h ↦ by
    rw [trimStart_eq_nil h] at hc
    cases hc
  rw [trimStart_append hne, List.head?_append, Option.mem_def.mp hc, Option.some_or]
  rfl

theorem Space.firm (hw : Space w) (hy : Firm y) : Firm (w ++ y) := by
  obtain ⟨hn, h⟩ := hy
  exact ⟨by simp [hw.1, hn], by rwa [hw.trimStart]⟩

theorem Firm.cons {c : Char} (hc : Unicode.isBlank c = false) (hq : c ≠ '"') (ht : c ≠ '\x60')
    (hy : '\n' ∉ y) : Firm (c :: y) := by
  refine ⟨?_, c, by rw [trimStart_cons hc]; rfl, hq, ht⟩
  rintro (_ | ⟨_, h⟩)
  · cases hc
  · exact hy h

theorem Firm.ne_nil (hx : Firm x) : x ≠ [] := by
  rintro rfl
  obtain ⟨-, c, hc, -⟩ := hx
  cases hc

end Text

namespace Gherkin.Grammar

open Reader Text

theorem blank_takes : Takes blank fun _ x _ ↦ x = [' '] ∨ x = ['\t'] := by
  refine ((Takes.char _).bind fun _ ↦ Takes.pure ()).mono ?_
  rintro - - rest ⟨a, x, y, rfl, ⟨rfl, ha⟩, -, rfl⟩
  simp only [Bool.or_eq_true, decide_eq_true_eq] at ha
  rcases ha with rfl | rfl
  · exact .inl rfl
  · exact .inr rfl

theorem space_of_blank {x : List Char} (h : x = [' '] ∨ x = ['\t']) : Space x := by
  rcases h with rfl | rfl <;> exact ⟨by decide, by decide⟩

theorem space_of_chain {α : Type} {as : List α} {x rest : List Char}
    (h : Chain (fun _ x _ ↦ Space x) as x rest) : Space x := by
  induction h with
  | nil => exact .nil
  | cons hx _ ih => exact hx.append ih

theorem blanks_takes : Takes blanks fun _ x _ ↦ Space x := by
  refine ((blank_takes.mono fun _ _ _ ↦ space_of_blank).many.bind fun _ ↦ Takes.pure ()).mono ?_
  rintro - - rest ⟨as, x, y, rfl, h, -, rfl⟩
  rw [List.append_nil]
  exact space_of_chain h

theorem lineEnd_takes : Takes lineEnd fun _ x _ ↦ x = ['\n'] ∨ x = ['\r', '\n'] := by
  refine ((Takes.char _).optional.bind fun _ ↦ (Takes.char _).bind fun _ ↦ Takes.pure ()).mono ?_
  rintro - - rest ⟨o, x, -, rfl, hx, b, -, -, rfl, ⟨rfl, hb⟩, -, rfl⟩
  obtain rfl := of_decide_eq_true hb
  rcases hx with ⟨a, -, rfl, ha⟩ | ⟨-, rfl⟩
  · obtain rfl := of_decide_eq_true ha
    exact .inr rfl
  · exact .inl rfl

theorem lineEnd_newline (l : List Char) (q : Position) : lineEnd ⟨'\n' :: l, q⟩ ≠ .failed := by
  intro h
  cases h

theorem inLine_takes : Takes inLine fun c x _ ↦ x = [c] ∧ c ≠ '\n' := by
  rintro ⟨rest, q⟩ c c' h
  obtain ⟨_, c₁, habsent, hany⟩ := bind_eq_done.mp h
  obtain ⟨hfailed, rfl⟩ := absent_eq_done.mp habsent
  obtain ⟨x, rfl, rfl, -⟩ := Takes.char _ _ c c' hany
  refine ⟨[c], rfl, rfl, ?_⟩
  rintro rfl
  exact lineEnd_newline _ q hfailed

theorem atLineEnd_of_inLine {c : Cursor} (h : inLine c = .failed) : AtLineEnd c.rest := by
  rcases bind_eq_failed.mp h with h | ⟨_, c₁, habsent, hany⟩
  · obtain ⟨u, c', hend⟩ := absent_eq_failed.mp h
    obtain ⟨x, hx, rfl | rfl⟩ := lineEnd_takes c u c' hend
    · exact .inr (.inl ⟨_, hx⟩)
    · exact .inr (.inr ⟨_, hx⟩)
  · obtain ⟨-, rfl⟩ := absent_eq_done.mp habsent
    exact .inl (rest_of_any hany)

theorem inLines_takes : Takes (many inLine) fun l x rest ↦ x = l ∧ '\n' ∉ l ∧ AtLineEnd rest := by
  have hwithin : ∀ (t : List Char) (c : Cursor) (l : List Char) (c' : Cursor),
      c.rest.length ≤ t.length → manyWithin inLine t c = .done l c' →
        c.rest = l ++ c'.rest ∧ '\n' ∉ l ∧ AtLineEnd c'.rest := by
    intro t
    induction t with
    | nil =>
      intro c l c' ht h
      obtain ⟨rfl, rfl⟩ := Reply.done.inj h
      exact ⟨rfl, List.not_mem_nil, .inl (List.eq_nil_of_length_eq_zero (Nat.le_zero.mp ht))⟩
    | cons d t ih =>
      intro c l c' ht h
      rw [manyWithin] at h
      split at h
      · next a c₁ ha =>
        split at h
        · next as c₂ has =>
          obtain ⟨rfl, rfl⟩ := Reply.done.inj h
          obtain ⟨x, hx, rfl, hne⟩ := inLine_takes c a c₁ ha
          have ht' : c₁.rest.length ≤ t.length := by
            rw [hx] at ht
            simpa using ht
          obtain ⟨hrest, hn, hend⟩ := ih c₁ as c₂ ht' has
          exact ⟨by rw [hx, hrest]; rfl, by simp [Ne.symm hne, hn], hend⟩
        · cases h
        · cases h
      · next hfailed =>
        obtain ⟨rfl, rfl⟩ := Reply.done.inj h
        exact ⟨rfl, List.not_mem_nil, atLineEnd_of_inLine hfailed⟩
      · cases h
  intro c l c' h
  obtain ⟨hrest, hl⟩ := hwithin c.rest c l c' le_rfl h
  exact ⟨l, hrest, rfl, hl⟩

theorem lineRest_takes :
    Takes lineRest fun l x rest ↦ x = l ∧ l ≠ [] ∧ '\n' ∉ l ∧ AtLineEnd rest := by
  refine (inLine_takes.bind fun a ↦ inLines_takes.bind fun as ↦ Takes.pure (a :: as)).mono ?_
  rintro _ _ rest ⟨a, _, _, rfl, ⟨rfl, ha⟩, as, _, _, rfl, ⟨rfl, has, hrest⟩, rfl, rfl⟩
  exact ⟨by simp, List.cons_ne_nil _ _, by simp [Ne.symm ha, has], hrest⟩

theorem commentBody_takes : Takes commentBody fun _ x _ ↦ Firm x := by
  refine (blanks_takes.bind fun _ ↦ (Takes.char _).bind fun _ ↦
    inLines_takes.bind fun _ ↦ Takes.pure ()).mono ?_
  rintro _ _ rest ⟨_, w, _, rfl, hw, b, _, _, rfl, ⟨rfl, hb⟩, l, _, _, rfl, ⟨rfl, hl, -⟩, -, rfl⟩
  obtain rfl := of_decide_eq_true hb
  rw [List.append_nil]
  exact hw.firm (.cons (by decide) (by decide) (by decide) hl)

theorem newline_takes : Takes newline fun _ x _ ↦ ∃ p, x = p ++ ['\n'] ∧ (Space p ∨ Firm p) := by
  refine (commentBody_takes.optional.bind fun _ ↦ lineEnd_takes).mono ?_
  have hreturn : Space ['\r'] := ⟨by decide, by decide⟩
  rintro _ _ rest ⟨_, x, y, rfl, hx, rfl | rfl⟩
  · rcases hx with ⟨_, -, hx⟩ | ⟨-, rfl⟩
    · exact ⟨x, rfl, .inr hx⟩
    · exact ⟨[], rfl, .inl .nil⟩
  · refine ⟨x ++ ['\r'], by simp, ?_⟩
    rcases hx with ⟨_, -, hx⟩ | ⟨-, rfl⟩
    · exact .inr (hx.append hreturn.1)
    · exact .inl hreturn

theorem eq_of_chain {p : Char → Prop} {as x rest : List Char}
    (h : Chain (fun c x _ ↦ x = [c] ∧ p c) as x rest) : x = as ∧ ∀ c ∈ as, p c := by
  induction h with
  | nil => exact ⟨rfl, nofun⟩
  | cons h _ ih =>
    obtain ⟨rfl, hc⟩ := h
    obtain ⟨rfl, has⟩ := ih
    exact ⟨rfl, List.forall_mem_cons.mpr ⟨hc, has⟩⟩

theorem tag_takes : Takes tag fun _ x _ ↦ Firm x := by
  refine ((Takes.word _).bind fun _ ↦ (Takes.char _).several.bind fun _ ↦ Takes.pure _).mono ?_
  rintro _ _ rest ⟨_, _, _, rfl, rfl, as, y, _, rfl, hy, -, rfl⟩
  obtain ⟨rfl, has⟩ := eq_of_chain hy
  rw [List.append_nil]
  refine .cons (by decide) (by decide) (by decide) fun h ↦ ?_
  have := has _ h
  simp [show Unicode.isBlank '\n' = true by decide] at this

theorem cell_takes : Takes cell fun _ x _ ↦ Firm x := by
  have hchar : Takes (do absent (word ['|']); inLine) fun c x _ ↦ x = [c] ∧ c ≠ '\n' := by
    refine ((Takes.absent _).bind fun _ ↦ inLine_takes).mono ?_
    rintro c _ rest ⟨_, _, x, rfl, rfl, hx⟩
    exact hx
  refine ((Takes.word _).bind fun _ ↦ blanks_takes.bind fun _ ↦ (Takes.absent _).bind fun _ ↦
    hchar.many.bind fun _ ↦ Takes.pure _).mono ?_
  rintro _ _ rest ⟨_, _, _, rfl, rfl, _, w, _, rfl, hw, _, _, _, rfl, rfl, as, y, _, rfl, hy, -,
    rfl⟩
  obtain ⟨rfl, has⟩ := eq_of_chain hy
  simp only [List.append_nil, List.nil_append, List.cons_append]
  refine .cons (by decide) (by decide) (by decide) fun h ↦ ?_
  rcases List.mem_append.mp h with h | h
  · exact hw.1 h
  · exact has _ h rfl

end Gherkin.Grammar

end LivingDoc
