import LivingDoc.Proofs.Draft
import LivingDoc.Publisher

namespace LivingDoc

/-- The error of a computation is the first of some errors, and there is none if there are none. -/
def Fails {ε α : Type} (x : Except ε α) (l : List ε) : Prop := ∀ e, x = .error e ↔ l.head? = some e

section Fails

variable {ε α β : Type} {x : Except ε α} {l m : List ε}

theorem fails_ok (a : α) : Fails (.ok a : Except ε α) [] := fun e ↦ by simp

theorem fails_error (e : ε) (l : List ε) : Fails (.error e : Except ε α) (e :: l) :=
  fun e' ↦ by simp

theorem Fails.bind {f : α → Except ε β} (hx : Fails x l) (hf : ∀ a, Fails (f a) m) :
    Fails (x >>= f) (l ++ m) := by
  intro e
  cases x with
  | ok a =>
    have hl : l = [] := by
      cases l with
      | nil => rfl
      | cons e' l => simpa using hx e'
    rw [hl, List.nil_append]
    exact hf a e
  | error e' =>
    have he : l.head? = some e' := (hx e').mp rfl
    rw [List.head?_append, he, Option.some_or, Option.some_inj]
    exact ⟨fun h ↦ Except.error.inj h, fun h ↦ h ▸ rfl⟩

theorem Fails.map (hx : Fails x l) (f : α → β) : Fails (x.map f) l := by
  intro e
  rw [← hx e]
  cases x <;> simp [Except.map]

theorem fails_mapM {f : α → Except ε β} {g : α → List ε} (h : ∀ a, Fails (f a) (g a))
    (l : List α) : Fails (l.mapM f) (l.flatMap g) := by
  induction l with
  | nil => exact fails_ok []
  | cons a l ih =>
    rw [List.mapM_cons, List.flatMap_cons]
    refine (h a).bind fun b ↦ ?_
    have hl := ih.bind fun m ↦ fails_ok (b :: m)
    rwa [List.append_nil] at hl

theorem Fails.isError (hx : Fails x l) : (∃ e, x = .error e) ↔ l ≠ [] := by
  rw [exists_congr hx]
  cases l <;> simp

end Fails

namespace Gherkin

namespace StepWords

variable {w : StepWords} {k : String}

theorem exists_mem_of_iff : (∃ kind, k ∈ w.of kind) ↔ k ∈ w.all := by
  simp only [all, List.mem_append]
  constructor
  · intro h
    obtain ⟨kind, h⟩ := h
    cases kind <;> simp_all [StepWords.of]
  · intro h
    rcases h with (((h | h) | h) | h) | h
    exacts [⟨.context, h⟩, ⟨.action, h⟩, ⟨.outcome, h⟩, ⟨.conjunction, h⟩, ⟨.contrast, h⟩]

theorem kindOf_eq_error_iff {e : UnknownKeyword} :
    w.kindOf k = .error e ↔ Text.trimmed k ∉ w.all ∧ e = ⟨Text.trimmed k⟩ := by
  have hall : ∀ kind, kind ∈ StepKind.byPrecedence := fun kind ↦ by cases kind <;> decide
  rw [kindOf]
  cases hf : StepKind.byPrecedence.find? fun kind ↦ (w.of kind).contains (Text.trimmed k) with
  | none =>
    have hn : Text.trimmed k ∉ w.all := by
      rw [← exists_mem_of_iff]
      intro h
      obtain ⟨kind, h⟩ := h
      exact List.find?_eq_none.mp hf kind (hall kind) (List.contains_iff_mem.mpr h)
    simp [hn, eq_comm]
  | some kind =>
    have hk : (w.of kind).contains (Text.trimmed k) := by simpa using List.find?_some hf
    have hm : Text.trimmed k ∈ w.all :=
      exists_mem_of_iff.mp ⟨kind, List.contains_iff_mem.mp hk⟩
    simp [hm]

end StepWords

/-- What is wrong with a step: none of the words opens it. -/
def Step.offences (w : StepWords) (s : Step) : List DraftError :=
  if Text.trimmed s.keyword ∈ w.all then []
  else [.unknownKeyword (Text.trimmed s.keyword) s.position.line]

/-- What is wrong with a child: that it is a rule, or its steps. -/
def Child.offences (w : StepWords) : Child → List DraftError
  | scenario s | outline s _ => s.steps.flatMap (Step.offences w)
  | rule _ p => [.ruleFound p.line]

theorem Step.offences_ne_nil {w : StepWords} {s : Step} :
    s.offences w ≠ [] ↔ ∃ u, w.kindOf s.keyword = .error u := by
  simp only [StepWords.kindOf_eq_error_iff, offences]
  split <;> simp_all

theorem flatMap_offences_ne_nil {w : StepWords} {l : List Step} :
    l.flatMap (Step.offences w) ≠ [] ↔ ∃ s ∈ l, ∃ u, w.kindOf s.keyword = .error u := by
  simp [List.flatMap_eq_nil_iff, ← Step.offences_ne_nil]

theorem Child.offences_ne_nil {w : StepWords} {c : Child} :
    c.offences w ≠ [] ↔ (∃ name place, c = .rule name place) ∨
      ∃ s ∈ c.steps, ∃ u, w.kindOf s.keyword = .error u := by
  cases c with
  | scenario s => simp [offences, steps, ← flatMap_offences_ne_nil]
  | outline s e => simp [offences, steps, ← flatMap_offences_ne_nil]
  | rule name p => simp [offences]

namespace Feature

variable (f : Feature)

def backgroundSteps : List Step := f.background.toList.flatMap Background.steps

/-- What is wrong with a feature: the steps of its background, and then its children. -/
def offences (w : StepWords) : List DraftError :=
  f.backgroundSteps.flatMap (Step.offences w) ++ f.children.flatMap (Child.offences w)

/-- The words that open the steps of a feature: those that are given, else those of its language,
else the English ones. -/
def wordsOr (given : Option StepWords) : StepWords :=
  given.getD ((f.language.bind Vocabulary.find?).getD .english).words

end Feature

end Gherkin

namespace Drafter

variable (d : Drafter)

theorem fails_step (s : Gherkin.Step) : Fails (d.step s) (s.offences d.words) := by
  intro e
  rw [step, Gherkin.Step.offences]
  cases hk : d.words.kindOf s.keyword with
  | ok kind =>
    have hm : Text.trimmed s.keyword ∈ d.words.all := by
      by_contra hn
      have := Gherkin.StepWords.kindOf_eq_error_iff.mpr ⟨hn, rfl⟩
      rw [hk] at this
      cases this
    simp [hm]
  | error u =>
    obtain ⟨hn, rfl⟩ := Gherkin.StepWords.kindOf_eq_error_iff.mp hk
    simp [hn]

theorem fails_about (topic : Topic) (s : Gherkin.Scenario) :
    Fails (d.about topic s) (s.steps.flatMap (Gherkin.Step.offences d.words)) := by
  have h := (fails_mapM d.fails_step s.steps).bind (m := []) fun steps ↦ fails_ok
    ({ title := s.name, description := s.description.getD "", position := s.position,
       tags := d.hide.visible s.tags, steps, owner := none, topic } : Section)
  rwa [List.append_nil] at h

theorem fails_child (c : Gherkin.Child) : Fails (d.child c) (c.offences d.words) := by
  cases c with
  | scenario s => exact d.fails_about _ s
  | outline s e => exact d.fails_about _ s
  | rule name p => exact fails_error _ []

theorem fails_background (b : Option Gherkin.Background) :
    Fails (b.mapM d.background)
      ((b.toList.flatMap Gherkin.Background.steps).flatMap (Gherkin.Step.offences d.words)) := by
  cases b with
  | none => exact fails_ok none
  | some b =>
    rw [Option.toList_some, List.flatMap_singleton]
    exact (d.fails_about .background ⟨b.name, b.description, [], b.steps, b.position⟩).map some

/-- The error of a draft is the first offence of the feature. -/
theorem fails_feature (f : Gherkin.Feature) : Fails (d.feature f) (f.offences d.words) := by
  refine (d.fails_background f.background).bind fun b ↦ ?_
  have h := (fails_mapM d.fails_child f.children).bind (m := []) fun sections ↦
    fails_ok (⟨b, sections⟩ : Draft)
  rwa [List.append_nil] at h

end Drafter

namespace Publisher

theorem words_drafter (p : Publisher) (f : Gherkin.Feature) :
    (p.drafter f).words = f.wordsOr p.words := by
  have hdefault : Vocabulary.find? defaultLanguage = some .english := by decide +kernel
  rw [drafter, Gherkin.Feature.wordsOr, Vocabulary.ofLanguage]
  cases f.language with
  | none => rw [Option.getD_none, hdefault, Option.bind_none, Option.getD_some, Option.getD_none]
  | some code => rw [Option.getD_some, Option.bind_some]

theorem fails_publish (p : Publisher) (doc : Gherkin.Document) :
    Fails (p.publish doc) (doc.feature.offences (doc.feature.wordsOr p.words)) := by
  rw [publish, ← words_drafter]
  exact ((p.drafter doc.feature).fails_feature doc.feature).map _

/-- A document is refused exactly if a step of the background, a rule among the children or a step
of a child cannot be drafted; the first of these in the order of the tree is the error. Neither the
settings nor the slugs have a say in it. -/
theorem publish_eq_error_iff (p : Publisher) (doc : Gherkin.Document) :
    (∀ err, p.publish doc = .error err ↔
      (doc.feature.offences (doc.feature.wordsOr p.words)).head? = some err) ∧
    ((∃ err, p.publish doc = .error err) ↔
      (∃ s ∈ doc.feature.backgroundSteps,
        ∃ u, (doc.feature.wordsOr p.words).kindOf s.keyword = .error u) ∨
      ∃ c ∈ doc.feature.children, (∃ name place, c = .rule name place) ∨
        ∃ s ∈ c.steps, ∃ u, (doc.feature.wordsOr p.words).kindOf s.keyword = .error u) ∧
    ∀ settings slugOf err, p.publish doc = .error err ↔
      ({ p with settings, slugOf } : Publisher).publish doc = .error err := by
  have hp := fails_publish p doc
  refine ⟨hp, ?_, fun settings slugOf err ↦ ?_⟩
  · have hc : doc.feature.children.flatMap (Gherkin.Child.offences (doc.feature.wordsOr p.words)) ≠
        [] ↔ ∃ c ∈ doc.feature.children, c.offences (doc.feature.wordsOr p.words) ≠ [] := by
      simp [List.flatMap_eq_nil_iff]
    rw [hp.isError, ne_eq, Gherkin.Feature.offences, List.append_eq_nil_iff, not_and_or]
    refine or_congr Gherkin.flatMap_offences_ne_nil (hc.trans ?_)
    exact exists_congr fun c ↦ and_congr_right fun _ ↦ Gherkin.Child.offences_ne_nil
  · exact (hp err).trans (fails_publish { p with settings, slugOf } doc err).symm

end Publisher

end LivingDoc
