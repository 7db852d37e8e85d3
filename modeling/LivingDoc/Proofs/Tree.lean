import LivingDoc.Gherkin.Raw
import LivingDoc.Proofs.Mirror
import LivingDoc.Proofs.Sorting

namespace LivingDoc.Gherkin

/-- A tag as it stands in a tree: it has an at sign, which was there or was put before it. -/
def Marked (raw tag : String) : Prop :=
  tag.toList.head? = some '@' ∧ (tag = raw ∨ raw.toList.head? ≠ some '@' ∧ tag = "@" ++ raw)

namespace Raw

/-- How a step stands in a tree. Its table comes before its doc string, unless it has no rows. -/
structure Step.Grows (s : Raw.Step) (t : Gherkin.Step) : Prop where
  keyword : t.keyword = s.keyword
  text : t.text = s.text
  position : t.position = s.position
  table : ∀ rows, t.argument = some (.table rows) ↔ s.table = some rows ∧ rows ≠ []
  docString : ∀ text, t.argument = some (.docString text) ↔
    s.docString = some text ∧ ∀ rows, s.table = some rows → rows = []

structure Background.Grows (b : Raw.Background) (c : Gherkin.Background) : Prop where
  name : c.name = (present b.name).getD ""
  description : c.description = present b.description
  position : c.position = b.position
  steps : List.Forall₂ Step.Grows b.steps c.steps

structure Examples.Grows (e : Raw.Examples) (x : Gherkin.Examples) : Prop where
  name : x.name = present e.name
  description : x.description = present e.description
  position : x.position = e.position
  tags : List.Forall₂ Marked e.tags x.tags
  table : e.table = some x.rows
  rows : x.rows ≠ []

def Examples.filled (e : Raw.Examples) : Bool := e.table.any fun rows ↦ !rows.isEmpty

structure Scenario.Shapes (s : Raw.Scenario) (t : Gherkin.Scenario) : Prop where
  name : t.name = s.name
  description : t.description = present s.description
  position : t.position = s.position
  tags : List.Forall₂ Marked s.tags t.tags
  steps : List.Forall₂ Step.Grows s.steps t.steps

/-- How a scenario stands in a tree: as an outline exactly if it has blocks of examples. Of these
the tree has the ones with rows, in their order. -/
inductive Scenario.Grows (s : Raw.Scenario) : Child → Prop
  | scenario {t : Gherkin.Scenario} : s.examples = [] → s.Shapes t → Grows s (.scenario t)
  | outline {t : Gherkin.Scenario} {xs : List Gherkin.Examples} : s.examples ≠ [] → s.Shapes t →
    List.Forall₂ Examples.Grows (s.examples.filter Examples.filled) xs → Grows s (.outline t xs)

def Rule.Grows (r : Raw.Rule) (c : Child) : Prop := c = .rule ((present r.name).getD "") r.position

/-- How a feature stands in a tree. Each of its scenarios and rules is one child, they stand in the
order of their places, and those at one place as they were read, the scenarios first. -/
structure Feature.Grows (f : Raw.Feature) (g : Gherkin.Feature) : Prop where
  name : g.name = f.name
  description : g.description = present f.description
  position : g.position = f.position
  tags : List.Forall₂ Marked f.tags g.tags
  background : List.Forall₂ Background.Grows f.background.toList g.background.toList
  children : ∃ scenarios rules : List Child, List.Forall₂ Scenario.Grows f.scenarios scenarios ∧
    List.Forall₂ Rule.Grows f.rules rules ∧ g.children.Perm (scenarios ++ rules) ∧
    ∀ place, g.children.filter (·.position = place) =
      (scenarios ++ rules).filter (·.position = place)
  order : g.children.Pairwise fun c d ↦ c.position.le d.position

theorem forall₂_map {α β : Type} {R : α → β → Prop} {f : α → β} (h : ∀ a, R a (f a)) (l : List α) :
    List.Forall₂ R l (l.map f) := by
  rw [List.forall₂_map_right_iff, List.forall₂_same]
  exact fun a _ ↦ h a

theorem marked_atTag (tag : String) : Marked tag (atTag tag) := by
  rw [atTag]
  split
  · next h => exact ⟨h, .inl rfl⟩
  · next h =>
    refine ⟨?_, .inr ⟨h, rfl⟩⟩
    rw [String.toList_append]
    rfl

theorem Step.grows (s : Raw.Step) : s.Grows s.toStep := by
  obtain ⟨keyword, text, docString, table, position⟩ := s
  refine ⟨rfl, rfl, rfl, fun rows ↦ ?_, fun text ↦ ?_⟩
  · cases table with
    | none => cases docString <;> simp [toStep, argument]
    | some l =>
      cases l with
      | nil => cases docString <;> simp [toStep, argument]
      | cons r l =>
        have hne : r :: l = rows → rows ≠ [] := fun h ↦ h ▸ List.cons_ne_nil r l
        simpa [toStep, argument] using hne
  · cases table with
    | none => simp [toStep, argument]
    | some rows => cases rows <;> simp [toStep, argument]

theorem Background.grows (b : Raw.Background) : b.Grows b.toBackground where
  name := rfl
  description := rfl
  position := rfl
  steps := forall₂_map Step.grows b.steps

theorem Examples.grows {e : Raw.Examples} {x : Gherkin.Examples} (h : e.toExamples? = some x) :
    e.filled ∧ e.Grows x := by
  unfold toExamples? at h
  split at h
  · next r l htable =>
    obtain rfl := Option.some.inj h
    refine ⟨by rw [filled, htable]; rfl, rfl, rfl, rfl, ?_, htable, List.cons_ne_nil r l⟩
    exact forall₂_map marked_atTag e.tags
  · cases h

theorem Examples.not_filled {e : Raw.Examples} (h : e.toExamples? = none) : ¬ e.filled := by
  unfold toExamples? at h
  split at h
  · cases h
  · next hrows =>
    rw [filled]
    cases htable : e.table with
    | none => exact Bool.false_ne_true
    | some rows =>
      cases rows with
      | nil => exact Bool.false_ne_true
      | cons r l => exact absurd htable (hrows r l)

theorem Examples.forall₂_grows (es : List Raw.Examples) :
    List.Forall₂ Examples.Grows (es.filter filled) (es.filterMap toExamples?) := by
  induction es with
  | nil => exact .nil
  | cons e es ih =>
    cases h : e.toExamples? with
    | none => rwa [List.filter_cons_of_neg (not_filled h), List.filterMap_cons_none h]
    | some x =>
      rw [List.filter_cons_of_pos (grows h).1, List.filterMap_cons_some h]
      exact .cons (grows h).2 ih

theorem Scenario.shapes (s : Raw.Scenario) : s.Shapes s.toScenario where
  name := rfl
  description := rfl
  position := rfl
  tags := forall₂_map marked_atTag s.tags
  steps := forall₂_map Step.grows s.steps

theorem Scenario.grows (s : Raw.Scenario) : s.Grows s.toChild := by
  rw [toChild]
  split
  · next h => exact .scenario (List.isEmpty_iff.mp h) s.shapes
  · next h =>
    exact .outline (mt List.isEmpty_iff.mpr h) s.shapes (Examples.forall₂_grows s.examples)

theorem Rule.grows (r : Raw.Rule) : r.Grows r.toChild := rfl

theorem Feature.grows (f : Raw.Feature) (language : Option String) :
    f.Grows (f.toFeature language) where
  name := rfl
  description := rfl
  position := rfl
  tags := forall₂_map marked_atTag f.tags
  background := by
    rw [toFeature]
    cases f.background with
    | none => exact .nil
    | some b => exact .cons b.grows .nil
  children := ⟨f.scenarios.map Scenario.toChild, f.rules.map Rule.toChild,
    forall₂_map Scenario.grows f.scenarios, forall₂_map Rule.grows f.rules, List.mergeSort_perm _ _,
    filter_mergeSort_place Child.position _⟩
  order := List.pairwise_mergeSort (fun c d e ↦ Position.le_trans c.position d.position e.position)
    (fun c d ↦ Position.le_total c.position d.position) _

end Raw

/-- The tags of a child and of its blocks of examples. -/
def Child.allTags (c : Child) : List String := c.tags ++ c.examples.flatMap Examples.tags

def Feature.allTags (g : Feature) : List String := g.tags ++ g.children.flatMap Child.allTags

/-- A step whose table, if it has one, has rows. -/
def Step.Filled (t : Step) : Prop := ∀ rows, t.argument = some (.table rows) → rows ≠ []

structure Child.Filled (c : Child) : Prop where
  steps : ∀ t ∈ c.steps, t.Filled
  examples : ∀ e ∈ c.examples, e.rows ≠ []

/-- A feature all of whose tables have rows. -/
structure Feature.Filled (g : Feature) : Prop where
  background : ∀ t ∈ g.backgroundSteps, t.Filled
  children : ∀ c ∈ g.children, c.Filled

namespace Raw

variable {f : Raw.Feature} {g : Gherkin.Feature} {c : Child}

theorem forall_marked {raw tags : List String} (h : List.Forall₂ Marked raw tags) :
    ∀ tag ∈ tags, tag.toList.head? = some '@' := forall_right h fun _ _ ht ↦ ht.1

theorem Step.Grows.filled {s : Raw.Step} {t : Gherkin.Step} (h : s.Grows t) : t.Filled :=
  fun rows ht ↦ ((h.table rows).mp ht).2

theorem Scenario.Grows.marked {s : Raw.Scenario} (h : s.Grows c) :
    ∀ tag ∈ c.allTags, tag.toList.head? = some '@' := by
  intro tag ht
  rcases List.mem_append.mp ht with ht | ht
  · cases h with
    | scenario _ hs => exact forall_marked hs.tags tag ht
    | outline _ hs _ => exact forall_marked hs.tags tag ht
  · obtain ⟨x, hx, hxt⟩ := List.mem_flatMap.mp ht
    cases h with
    | scenario _ _ => cases hx
    | outline _ _ hxs => exact forall_right hxs (fun _ _ hx ↦ forall_marked hx.tags) x hx tag hxt

theorem Scenario.Grows.filled {s : Raw.Scenario} (h : s.Grows c) : c.Filled := by
  cases h with
  | scenario _ hs => exact ⟨forall_right hs.steps fun _ _ ht ↦ ht.filled, nofun⟩
  | outline _ hs hxs =>
    exact ⟨forall_right hs.steps fun _ _ ht ↦ ht.filled, forall_right hxs fun _ _ hx ↦ hx.rows⟩

theorem Feature.Grows.forall_children (h : f.Grows g) {q : Child → Prop}
    (hscenario : ∀ s c, Scenario.Grows s c → q c) (hrule : ∀ name place, q (.rule name place)) :
    ∀ c ∈ g.children, q c := by
  obtain ⟨scenarios, rules, hs, hr, hperm, -⟩ := h.children
  intro c hc
  rcases List.mem_append.mp (hperm.mem_iff.mp hc) with hc | hc
  · exact forall_right hs hscenario c hc
  · refine forall_right hr (fun r c hc ↦ ?_) c hc
    rw [hc]
    exact hrule _ _

theorem Feature.Grows.marked (h : f.Grows g) : ∀ tag ∈ g.allTags, tag.toList.head? = some '@' := by
  intro tag ht
  rcases List.mem_append.mp ht with ht | ht
  · exact forall_marked h.tags tag ht
  · obtain ⟨c, hc, ht⟩ := List.mem_flatMap.mp ht
    exact h.forall_children (fun _ _ hs ↦ hs.marked) (fun _ _ ↦ nofun) c hc tag ht

theorem Feature.Grows.filled (h : f.Grows g) : g.Filled where
  background := by
    intro t ht
    obtain ⟨b, hb, ht⟩ := List.mem_flatMap.mp ht
    exact forall_right h.background
      (fun _ _ hb ↦ forall_right hb.steps fun _ _ ht ↦ ht.filled) b hb t ht
  children := h.forall_children (fun _ _ hs ↦ hs.filled)
    fun _ _ ↦ ⟨nofun, nofun⟩

end Raw

end LivingDoc.Gherkin
