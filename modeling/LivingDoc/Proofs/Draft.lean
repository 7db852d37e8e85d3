import LivingDoc.Draft
import LivingDoc.Proofs.Placement
import Mathlib.Data.List.Forall2

namespace LivingDoc

theorem bind_eq_ok_iff {ε α β : Type} {x : Except ε α} {f : α → Except ε β} {b : β} :
    (x >>= f) = .ok b ↔ ∃ a, x = .ok a ∧ f a = .ok b := by
  cases x with
  | error e => simp [bind, Except.bind]
  | ok a => simp [bind, Except.bind]

theorem mapM_eq_ok_iff {ε α β : Type} {f : α → Except ε β} {l : List α} {m : List β} :
    l.mapM f = .ok m ↔ List.Forall₂ (fun a b ↦ f a = .ok b) l m := by
  induction l generalizing m with
  | nil => cases m <;> simp [pure, Except.pure]
  | cons a l ih =>
    rw [List.mapM_cons, bind_eq_ok_iff]
    constructor
    · intro h
      obtain ⟨b, hb, h⟩ := h
      obtain ⟨m', hm, ⟨⟩⟩ := bind_eq_ok_iff.mp h
      exact .cons hb (ih.mp hm)
    · intro h
      rcases h with _ | ⟨hb, hm⟩
      exact ⟨_, hb, bind_eq_ok_iff.mpr ⟨_, ih.mpr hm, rfl⟩⟩

theorem forall_mem_iff {α β : Type} {R : α → β → Prop} {p : α → Prop} {q : β → Prop} {l : List α}
    {m : List β} (h : List.Forall₂ R l m) (hpq : ∀ a b, R a b → (p a ↔ q b)) :
    (∀ a ∈ l, p a) ↔ ∀ b ∈ m, q b := by
  induction h with
  | nil => simp
  | cons hab _ ih => rw [List.forall_mem_cons, List.forall_mem_cons, hpq _ _ hab, ih]

theorem forall_right {α β : Type} {R : α → β → Prop} {q : β → Prop} {l : List α} {m : List β}
    (h : List.Forall₂ R l m) (hq : ∀ a b, R a b → q b) : ∀ b ∈ m, q b :=
  (forall_mem_iff h fun a b hab ↦ iff_of_true trivial (hq a b hab)).mp fun _ _ ↦ trivial

theorem forall₂_of_common {α β γ : Type} {R : α → β → Prop} {S : α → γ → Prop} {T : β → γ → Prop}
    {l : List α} {m : List β} {n : List γ} (hm : List.Forall₂ R l m) (hn : List.Forall₂ S l n)
    (h : ∀ a b c, R a b → S a c → T b c) : List.Forall₂ T m n := by
  induction hm generalizing n with
  | nil =>
    cases hn
    exact .nil
  | cons hab _ ih =>
    cases hn with
    | cons hac hn => exact .cons (h _ _ _ hab hac) (ih hn)

theorem mapM_map_right {ε α β γ : Type} (f : α → Except ε β) (g : β → γ) (l : List α) :
    l.mapM (fun a ↦ (f a).map g) = (l.mapM f).map (List.map g) := by
  induction l with
  | nil => rfl
  | cons a l ih =>
    rw [List.mapM_cons, List.mapM_cons, ih]
    cases f a with
    | error e => rfl
    | ok b => cases l.mapM f <;> rfl

namespace TagFilter

theorem matchesTag_empty (tag : String) : empty.matchesTag tag = false := rfl

theorem visible_empty (tags : List String) : empty.visible tags = tags := by
  simp [visible, matchesTag_empty]

theorem mem_visible {hide : TagFilter} {tags : List String} {tag : String} :
    tag ∈ hide.visible tags ↔ tag ∈ tags ∧ hide.matchesTag tag = false := by
  simp [visible]

theorem visible_append (f : TagFilter) (l m : List String) :
    f.visible (l ++ m) = f.visible l ++ f.visible m := List.filter_append ..

theorem matchesAny_append (f : TagFilter) (l m : List String) :
    f.matchesAny (l ++ m) = (f.matchesAny l || f.matchesAny m) := List.any_append

end TagFilter

namespace Gherkin.Child

def name : Child → String
  | scenario s | outline s _ => s.name
  | rule name _ => name

/-- The steps of a child; those of a rule are not kept. -/
def steps : Child → List Step
  | scenario s | outline s _ => s.steps
  | rule _ _ => []

def span (c : Child) : Span := ⟨c.position.line, c.steps.map (·.position.line)⟩

end Gherkin.Child

def Section.veil (hide : TagFilter) (s : Section) : Section :=
  { s with tags := hide.visible s.tags }

def Draft.veil (hide : TagFilter) (d : Draft) : Draft :=
  { d with sections := d.sections.map (Section.veil hide) }

namespace Drafter

variable {d : Drafter} {c : Gherkin.Child} {s : Section} {f : Gherkin.Feature} {draft : Draft}

theorem step_eq_ok_iff {t : Gherkin.Step} {u : Step} :
    d.step t = .ok u ↔ ∃ kind, d.words.kindOf t.keyword = .ok kind ∧
      u = ⟨t.position, kind, t.keyword, t.text, t.argument.map attachment, []⟩ := by
  rw [step]
  cases d.words.kindOf t.keyword with
  | error e => simp
  | ok kind => simp [eq_comm]

theorem step_eq_ok {t : Gherkin.Step} {u : Step} (h : d.step t = .ok u) :
    u.position = t.position ∧ u.remarks = [] := by
  obtain ⟨kind, -, rfl⟩ := step_eq_ok_iff.mp h
  exact ⟨rfl, rfl⟩

variable (d) in
/-- How a section documents a child. -/
structure Drafts (c : Gherkin.Child) (s : Section) : Prop where
  title : s.title = c.name
  position : s.position = c.position
  tags : s.tags = d.hide.visible c.tags
  slug : s.slug = some (d.slugOf c.name)
  steps : List.Forall₂ (fun t u ↦ d.step t = .ok u) c.steps s.steps

theorem about_eq_ok_iff {topic : Topic} {n : Gherkin.Scenario} :
    d.about topic n = .ok s ↔ ∃ steps, List.Forall₂ (fun t u ↦ d.step t = .ok u) n.steps steps ∧
      s = ⟨n.name, n.description.getD "", n.position, d.hide.visible n.tags, steps, none,
        topic⟩ := by
  rw [about, bind_eq_ok_iff]
  refine exists_congr fun steps ↦ and_congr mapM_eq_ok_iff ?_
  exact ⟨fun h ↦ (Except.ok.inj h).symm, fun h ↦ congrArg Except.ok h.symm⟩

theorem about_eq_ok {topic : Topic} {t : Gherkin.Scenario} (h : d.about topic t = .ok s) :
    s.title = t.name ∧ s.position = t.position ∧ s.tags = d.hide.visible t.tags ∧
      s.topic = topic ∧ List.Forall₂ (fun t u ↦ d.step t = .ok u) t.steps s.steps := by
  obtain ⟨steps, hs, rfl⟩ := about_eq_ok_iff.mp h
  exact ⟨rfl, rfl, rfl, rfl, hs⟩

theorem drafts_of_child (h : d.child c = .ok s) : d.Drafts c s := by
  cases c with
  | scenario t =>
    obtain ⟨ht, hp, hg, htopic, hs⟩ := about_eq_ok h
    exact ⟨ht, hp, hg, by rw [Section.slug, htopic]; rfl, hs⟩
  | outline t e =>
    obtain ⟨ht, hp, hg, htopic, hs⟩ := about_eq_ok h
    exact ⟨ht, hp, hg, by rw [Section.slug, htopic]; rfl, hs⟩
  | rule name p => cases h

theorem Drafts.bare (h : d.Drafts c s) : ∀ t ∈ s.steps, t.remarks = [] :=
  forall_right h.steps fun _ _ hu ↦ (step_eq_ok hu).2

theorem Drafts.span_eq (h : d.Drafts c s) : s.span = c.span := by
  have hl : c.steps.map (·.position.line) = s.steps.map (·.position.line) := by
    rw [← List.forall₂_eq_eq_eq, List.forall₂_map_left_iff, List.forall₂_map_right_iff]
    exact h.steps.imp fun t u hu ↦ by rw [(step_eq_ok hu).1]
  rw [Section.span, Gherkin.Child.span, h.position, hl]

theorem forall₂_sections (h : d.feature f = .ok draft) :
    List.Forall₂ (fun c s ↦ d.child c = .ok s) f.children draft.sections := by
  obtain ⟨background, -, h⟩ := bind_eq_ok_iff.mp h
  obtain ⟨sections, hs, ⟨⟩⟩ := bind_eq_ok_iff.mp h
  exact mapM_eq_ok_iff.mp hs

theorem section_of_child {k : Nat} (h : d.feature f = .ok draft) (hc : f.children[k]? = some c) :
    ∃ s, draft.sections[k]? = some s ∧ d.child c = .ok s := by
  have hsec := forall₂_sections h
  obtain ⟨hk, rfl⟩ := List.getElem?_eq_some_iff.mp hc
  have hk' : k < draft.sections.length := hsec.length_eq ▸ hk
  exact ⟨_, List.getElem?_eq_getElem hk', hsec.get hk hk'⟩

theorem background_of_feature (h : d.feature f = .ok draft) :
    f.background.mapM d.background = .ok draft.background := by
  obtain ⟨b, hb, h⟩ := bind_eq_ok_iff.mp h
  obtain ⟨sections, -, ⟨⟩⟩ := bind_eq_ok_iff.mp h
  exact hb

theorem exists_of_mem_background (h : d.feature f = .ok draft) (hs : s ∈ draft.background) :
    ∃ b ∈ f.background, d.background b = .ok s := by
  have hb := background_of_feature h
  cases hf : f.background with
  | none =>
    rw [hf] at hb
    rw [← Except.ok.inj hb] at hs
    cases hs
  | some b =>
    rw [hf] at hb
    obtain ⟨s', hs', h'⟩ := bind_eq_ok_iff.mp hb
    rw [← Except.ok.inj h'] at hs
    obtain rfl := Option.some.inj hs
    exact ⟨b, rfl, hs'⟩

theorem tags_background (h : d.feature f = .ok draft) :
    ∀ b ∈ draft.background, b.tags = [] := by
  intro s hs
  obtain ⟨b, -, hb⟩ := exists_of_mem_background h hs
  exact (about_eq_ok hb).2.2.1

theorem bare_background (h : d.feature f = .ok draft) :
    ∀ s ∈ draft.background, ∀ t ∈ s.steps, t.remarks = [] := by
  intro s hs
  obtain ⟨b, -, hb⟩ := exists_of_mem_background h hs
  exact forall_right (about_eq_ok hb).2.2.2.2 fun _ _ hu ↦ (step_eq_ok hu).2

theorem about_veil (topic : Topic) (t : Gherkin.Scenario) :
    d.about topic t = ({ d with hide := .empty }.about topic t).map (Section.veil d.hide) := by
  have hstep : ({ d with hide := .empty } : Drafter).step = d.step := rfl
  rw [about, about, hstep]
  cases t.steps.mapM d.step with
  | error e => rfl
  | ok steps =>
    simp [bind, Except.bind, pure, Except.pure, Except.map, Section.veil, TagFilter.visible_empty]

theorem child_veil (c : Gherkin.Child) :
    d.child c = ({ d with hide := .empty }.child c).map (Section.veil d.hide) := by
  cases c with
  | scenario t => exact about_veil _ t
  | outline t e => exact about_veil _ t
  | rule name p => rfl

/-- What is hidden is left out, and nothing else is changed. -/
theorem feature_veil (d : Drafter) (f : Gherkin.Feature) :
    d.feature f = ({ d with hide := .empty }.feature f).map (Draft.veil d.hide) := by
  have hb : ({ d with hide := .empty } : Drafter).background = d.background := rfl
  have hc : d.child = fun c ↦ ({ d with hide := .empty }.child c).map (Section.veil d.hide) :=
    funext child_veil
  rw [feature, feature, hb, hc, mapM_map_right]
  cases f.background.mapM d.background with
  | error e => rfl
  | ok b => cases f.children.mapM ({ d with hide := .empty } : Drafter).child <;> rfl

end Drafter

end LivingDoc
