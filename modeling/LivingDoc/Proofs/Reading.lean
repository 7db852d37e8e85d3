import LivingDoc.Gherkin.Reader
import Mathlib.Logic.Nonempty

namespace LivingDoc.Gherkin.Reader

variable {α β : Type} {r s : Reader α} {f : α → Reader β} {c c' : Cursor} {b : β}
  {R R' : α → List Char → List Char → Prop} {S : α → β → List Char → List Char → Prop}

theorem bind_eq_done : (r >>= f) c = .done b c' ↔
    ∃ a c₁, r c = .done a c₁ ∧ f a c₁ = .done b c' := by
  dsimp only [Bind.bind]
  cases r c <;> simp [and_assoc]

theorem bind_eq_failed : (r >>= f) c = .failed ↔
    r c = .failed ∨ ∃ a c₁, r c = .done a c₁ ∧ f a c₁ = .failed := by
  dsimp only [Bind.bind]
  cases r c <;> simp [and_assoc]

theorem orElse_eq_done {a : α} :
    (r <|> s) c = .done a c' ↔ r c = .done a c' ∨ r c = .failed ∧ s c = .done a c' := by
  dsimp only [HOrElse.hOrElse, OrElse.orElse, Reader.orElse]
  cases r c <;> simp

theorem optional_eq_done {o : Option α} : optional r c = .done o c' ↔
    (∃ a, o = some a ∧ r c = .done a c') ∨ o = none ∧ r c = .failed ∧ c' = c := by
  rw [optional]
  cases r c with
  | done a c₁ => simp [and_left_comm, eq_comm (b := o)]
  | failed => simp [eq_comm]
  | fatal => simp

theorem absent_eq_done {u : Unit} : absent r c = .done u c' ↔ r c = .failed ∧ c' = c := by
  rw [absent]
  cases r c <;> simp [eq_comm]

theorem absent_eq_failed : absent r c = .failed ↔ ∃ a c', r c = .done a c' := by
  rw [absent]
  cases r c <;> simp

theorem exists_word {w l : List Char} (p : Position) : ∃ c', word w ⟨w ++ l, p⟩ = .done () c' := by
  induction w generalizing p with
  | nil => exact ⟨_, rfl⟩
  | cons d w ih =>
    obtain ⟨c', hc'⟩ := ih (Cursor.after p d)
    refine ⟨c', bind_eq_done.mpr ⟨(), ⟨w ++ l, Cursor.after p d⟩, ?_, hc'⟩⟩
    refine bind_eq_done.mpr ⟨d, _, ?_, rfl⟩
    rw [List.cons_append, char, decide_eq_true rfl, if_pos rfl]

theorem rest_of_any (h : any c = .failed) : c.rest = [] := by
  obtain ⟨_ | ⟨d, l⟩, q⟩ := c
  · rfl
  · cases h

def Takes (r : Reader α) (R : α → List Char → List Char → Prop) : Prop :=
  ∀ c a c', r c = .done a c' → ∃ x, c.rest = x ++ c'.rest ∧ R a x c'.rest

def Gives (r : Reader α) (φ : α → Prop) : Prop := ∀ c a c', r c = .done a c' → φ a

theorem Gives.any (r : Reader α) : Gives r fun _ ↦ True := fun _ _ _ _ ↦ trivial

theorem Gives.bind {φ : α → Prop} {ψ : β → Prop} (h : Gives r φ) (hf : ∀ a, φ a → Gives (f a) ψ) :
    Gives (r >>= f) ψ := by
  intro c b c' hb
  obtain ⟨a, c₁, hr, hb⟩ := bind_eq_done.mp hb
  exact hf a (h c a c₁ hr) c₁ b c' hb

/-- Readings one after the other, the text that each of them takes being followed by the next. -/
inductive Chain (R : α → List Char → List Char → Prop) : List α → List Char → List Char → Prop
  | nil {rest : List Char} : Chain R [] [] rest
  | cons {a : α} {as : List α} {x y rest : List Char} :
      R a x (y ++ rest) → Chain R as y rest → Chain R (a :: as) (x ++ y) rest

namespace Takes

theorem mono (h : Takes r R) (hR : ∀ a x rest, R a x rest → R' a x rest) : Takes r R' := by
  intro c a c' hr
  obtain ⟨x, hx, ha⟩ := h c a c' hr
  exact ⟨x, hx, hR a x _ ha⟩

theorem gives {φ : α → Prop} (h : Takes r R) (hφ : Gives r φ) :
    Takes r fun a x rest ↦ φ a ∧ R a x rest := by
  intro c a c' hr
  obtain ⟨x, hx, ha⟩ := h c a c' hr
  exact ⟨x, hx, hφ c a c' hr, ha⟩

theorem forall_index {ι : Type} [Nonempty ι] {R : ι → α → List Char → List Char → Prop}
    (h : ∀ i, Takes r (R i)) : Takes r fun a x rest ↦ ∀ i, R i a x rest := by
  intro c a c' hr
  obtain ⟨x, hx, -⟩ := h (Classical.arbitrary ι) c a c' hr
  refine ⟨x, hx, fun i ↦ ?_⟩
  obtain ⟨y, hy, ha⟩ := h i c a c' hr
  rwa [List.append_cancel_right (hx.symm.trans hy)]

theorem pure (a : α) : Takes (Pure.pure a : Reader α) fun b x _ ↦ b = a ∧ x = [] := by
  intro c b c' h
  obtain ⟨rfl, rfl⟩ := Reply.done.inj h
  exact ⟨[], rfl, rfl, rfl⟩

theorem bind_of {φ : α → Prop} (h : Takes r R) (hφ : Gives r φ)
    (hf : ∀ a, φ a → Takes (f a) (S a)) :
    Takes (r >>= f) fun b z rest ↦ ∃ a x y, z = x ++ y ∧ R a x (y ++ rest) ∧ S a b y rest := by
  intro c b c' hb
  obtain ⟨a, c₁, hr, hb⟩ := bind_eq_done.mp hb
  obtain ⟨x, hx, ha⟩ := h c a c₁ hr
  obtain ⟨y, hy, hb⟩ := hf a (hφ c a c₁ hr) c₁ b c' hb
  exact ⟨x ++ y, by rw [hx, hy, List.append_assoc], a, x, y, rfl, hy ▸ ha, hb⟩

theorem bind (h : Takes r R) (hf : ∀ a, Takes (f a) (S a)) : Takes (r >>= f) fun b z rest ↦
    ∃ a x y, z = x ++ y ∧ R a x (y ++ rest) ∧ S a b y rest :=
  h.bind_of (Gives.any r) fun a _ ↦ hf a

theorem orElse (h : Takes r R) (h' : Takes s R) : Takes (r <|> s) R := by
  intro c a c' ha
  rcases orElse_eq_done.mp ha with ha | ⟨-, ha⟩
  · exact h c a c' ha
  · exact h' c a c' ha

theorem optional (h : Takes r R) : Takes (optional r) fun o x rest ↦
    (∃ a, o = some a ∧ R a x rest) ∨ o = none ∧ x = [] := by
  intro c o c' ho
  rcases optional_eq_done.mp ho with ⟨a, rfl, ha⟩ | ⟨rfl, -, rfl⟩
  · obtain ⟨x, hx, ha⟩ := h c a c' ha
    exact ⟨x, hx, .inl ⟨a, rfl, ha⟩⟩
  · exact ⟨[], rfl, .inr ⟨rfl, rfl⟩⟩

theorem absent (r : Reader α) : Takes (absent r) fun _ x _ ↦ x = [] := by
  intro c u c' h
  obtain ⟨-, rfl⟩ := absent_eq_done.mp h
  exact ⟨[], rfl, rfl⟩

theorem absent_word (w : List Char) : Takes (Reader.absent (Reader.word w)) fun _ x rest ↦
    x = [] ∧ ¬ w <+: rest := by
  rintro ⟨rest, p⟩ u c' h
  obtain ⟨hfailed, rfl⟩ := absent_eq_done.mp h
  refine ⟨[], rfl, rfl, ?_⟩
  rintro ⟨l, rfl⟩
  obtain ⟨c', hc'⟩ := exists_word (w := w) (l := l) p
  rw [hc'] at hfailed
  cases hfailed

theorem position : Takes position fun _ x _ ↦ x = [] := by
  intro c p c' h
  obtain ⟨rfl, rfl⟩ := Reply.done.inj h
  exact ⟨[], rfl, rfl⟩

theorem atEnd : Takes atEnd fun _ x rest ↦ x = [] ∧ rest = [] := by
  intro c u c' h
  rw [Reader.atEnd] at h
  split at h
  · obtain ⟨-, rfl⟩ := Reply.done.inj h
    exact ⟨[], rfl, rfl, List.isEmpty_iff.mp ‹_›⟩
  · cases h

theorem char (p : Char → Bool) : Takes (char p) fun a x _ ↦ x = [a] ∧ p a := by
  rintro ⟨l, q⟩ a c' h
  cases l with
  | nil => cases h
  | cons c l =>
    rw [Reader.char] at h
    split at h
    · obtain ⟨rfl, rfl⟩ := Reply.done.inj h
      exact ⟨[c], rfl, rfl, ‹_›⟩
    · cases h

theorem word (w : List Char) : Takes (word w) fun _ x _ ↦ x = w := by
  induction w with
  | nil => exact (pure ()).mono fun _ _ _ h ↦ h.2
  | cons c w ih =>
    refine (bind (bind (char _) fun a ↦ pure ()) fun _ ↦ ih).mono ?_
    rintro - - - ⟨-, -, y, rfl, ⟨a, x, z, rfl, ⟨rfl, ha⟩, -, rfl⟩, rfl⟩
    obtain rfl := of_decide_eq_true ha
    rfl

theorem oneOf (words : List String) : Takes (oneOf words) fun s x _ ↦ s ∈ words ∧ x = s.toList := by
  intro c s c' h
  rw [Reader.oneOf] at h
  split at h
  · next w hw =>
    obtain ⟨x, hx, -, x', y, rfl, rfl, rfl, rfl⟩ := ((word w.toList).bind fun _ ↦ pure w) c s c' h
    exact ⟨_, hx, List.mem_of_find?_eq_some hw, List.append_nil _⟩
  · cases h

theorem manyWithin (h : Takes r R) (l : List Char) : Takes (manyWithin r l) (Chain R) := by
  induction l with
  | nil =>
    intro c as c' has
    obtain ⟨rfl, rfl⟩ := Reply.done.inj has
    exact ⟨[], rfl, .nil⟩
  | cons d l ih =>
    intro c as c' has
    rw [Reader.manyWithin] at has
    split at has
    · next a c₁ ha =>
      split at has
      · next as' c₂ has' =>
        obtain ⟨rfl, rfl⟩ := Reply.done.inj has
        obtain ⟨x, hx, ha⟩ := h c a c₁ ha
        obtain ⟨y, hy, has'⟩ := ih c₁ as' c₂ has'
        exact ⟨x ++ y, by rw [hx, hy, List.append_assoc], .cons (hy ▸ ha) has'⟩
      · cases has
      · cases has
    · obtain ⟨rfl, rfl⟩ := Reply.done.inj has
      exact ⟨[], rfl, .nil⟩
    · cases has

theorem many (h : Takes r R) : Takes (many r) (Chain R) := fun c ↦ h.manyWithin c.rest c

theorem several (h : Takes r R) : Takes (several r) (Chain R) := by
  refine (h.bind fun a ↦ h.many.bind fun as ↦ pure (a :: as)).mono ?_
  rintro - - rest ⟨a, x, -, rfl, ha, as, y, -, rfl, has, rfl, rfl⟩
  rw [List.append_nil] at ha ⊢
  exact .cons ha has

theorem taken (h : Takes r R) : Takes (taken r) fun y x rest ↦ y = x ∧ ∃ a, R a x rest := by
  intro c y c' hy
  rw [Reader.taken] at hy
  split at hy
  · next a c₁ ha =>
    obtain ⟨rfl, rfl⟩ := Reply.done.inj hy
    obtain ⟨x, hx, ha⟩ := h c a c₁ ha
    refine ⟨x, hx, ?_, a, ha⟩
    rw [hx, List.length_append, Nat.add_sub_cancel, List.take_left']
    rfl
  · cases hy
  · cases hy

end Takes

end LivingDoc.Gherkin.Reader
