import LivingDoc.Proofs.Passes

namespace LivingDoc

namespace Commentary

variable {hide : TagFilter} {c : Commentary} {s : Section} {x : Commentary × List (List String)}
  {n : Nat}

def leading (c : Commentary) (s : Section) : Nat → List Remark
  | 0 => c.remarks.takeWhile fun r ↦ r.role = .unattached && r.position.line < s.position.line
  | k + 1 => ((c.sections[k]?.bind (·.steps.getLast?)).elim [] Step.remarks).filter
      (·.role = .afterLastStep)

/-- The remarks that a section with number `k` takes tags from. -/
def around (c : Commentary) (k : Nat) (s : Section) : List Remark :=
  c.leading s k ++ (s.steps.flatMap Step.remarks).filter (·.role ≠ .afterLastStep)

/-- One section is tagged where it stands, by what stands around it at that time, and what is kept
off it is noted. -/
def tagSection (hide : TagFilter) (x : Commentary × List (List String)) (k : Nat) :
    Commentary × List (List String) :=
  match x.1.sections[k]? with
  | none => x
  | some s =>
    let t := (Tagging.start s.tags).read hide (x.1.around k s)
    ({ x.1 with sections := x.1.sections.set k { s with tags := t.tags } }, x.2 ++ [t.hidden])

theorem leading_eq (hs : c.sections[n]? = some s) : c.leading s n = c.before n := by
  cases n with
  | zero =>
    rw [before, opening]
    cases hc : c.sections with
    | nil => simp [hc] at hs
    | cons t l =>
      obtain rfl : t = s := by simpa [hc] using hs
      rfl
  | succ n =>
    rw [before, leading]
    cases c.sections[n]? with
    | none => rfl
    | some t =>
      rw [Option.bind_some, Option.map_some, Option.getD_some, Section.trailing]
      cases t.steps.getLast? <;> rfl

theorem around_eq (hs : c.sections[n]? = some s) : c.around n s = c.before n ++ s.inner := by
  rw [around, leading_eq hs, List.filter_flatMap]
  rfl

theorem getElem?_taggings_around (c : Commentary) (hide : TagFilter) (k : Nat) :
    (c.taggings hide)[k]? =
      c.sections[k]?.map fun s ↦ (Tagging.start s.tags).read hide (c.around k s) := by
  rw [getElem?_taggings]
  exact Option.map_congr fun s hs ↦ by rw [around_eq hs]

theorem getElem?_tagged_around (c : Commentary) (hide : TagFilter) (k : Nat) :
    (c.tagged hide).sections[k]? = c.sections[k]?.map fun s ↦
      { s with tags := ((Tagging.start s.tags).read hide (c.around k s)).tags } := by
  rw [getElem?_tagged]
  exact Option.map_congr fun s hs ↦ by rw [around_eq hs]

structure Underway (hide : TagFilter) (c : Commentary) (n : Nat)
    (x : Commentary × List (List String)) : Prop where
  remarks : x.1.remarks = c.remarks
  tagged : ∀ k < n, x.1.sections[k]? = (c.tagged hide).sections[k]?
  left : ∀ k, n ≤ k → x.1.sections[k]? = c.sections[k]?
  hidden : x.2 = ((c.taggings hide).take n).map Tagging.hidden

/-- A section looks at remarks and steps, and these are still what they were. -/
theorem Underway.around_eq (h : Underway hide c n x) (s : Section) :
    x.1.around n s = c.around n s := by
  rw [around, around]
  congr 1
  cases n with
  | zero => rw [leading, leading, h.remarks]
  | succ n =>
    rw [leading, leading, h.tagged n (Nat.lt_succ_self n), getElem?_tagged]
    cases c.sections[n]? <;> rfl

theorem Underway.tagSection (h : Underway hide c n x) (hn : n < c.sections.length) :
    Underway hide c (n + 1) (tagSection hide x n) := by
  have hs := List.getElem?_eq_getElem hn
  have ht := getElem?_taggings_around c hide n
  have hg := getElem?_tagged_around c hide n
  rw [hs, Option.map_some] at ht hg
  have hx := (h.left n (Nat.le_refl n)).trans hs
  rw [Commentary.tagSection, hx]
  dsimp only
  rw [h.around_eq]
  have hlen : n < x.1.sections.length := (List.getElem?_eq_some_iff.mp hx).1
  constructor
  case remarks => exact h.remarks
  case tagged =>
    intro k hk
    rcases Nat.eq_or_lt_of_le (Nat.le_of_lt_succ hk) with rfl | hk
    · rw [List.getElem?_set_self hlen, hg]
    · rw [List.getElem?_set_ne (Nat.ne_of_gt hk), h.tagged k hk]
  case left =>
    intro k hk
    rw [List.getElem?_set_ne (Nat.ne_of_lt hk), h.left k (Nat.le_of_succ_le hk)]
  case hidden => rw [h.hidden, List.take_add_one, ht, List.map_append, Option.toList_some,
    List.map_singleton]

theorem underway_foldl (hide : TagFilter) (c : Commentary) (hn : n ≤ c.sections.length) :
    Underway hide c n ((List.range n).foldl (tagSection hide) (c, [])) := by
  induction n with
  | zero => exact ⟨rfl, by simp, fun _ _ ↦ rfl, rfl⟩
  | succ n ih =>
    rw [List.range_succ, List.foldl_append, List.foldl_cons, List.foldl_nil]
    exact (ih (Nat.le_of_succ_le hn)).tagSection hn

/-- Tagging one section after the other ends in what tagging all of them at once comes to. -/
theorem Underway.eq_tagged (h : Underway hide c c.sections.length x) :
    x = (c.tagged hide, (c.taggings hide).map Tagging.hidden) := by
  have hsections : x.1.sections = (c.tagged hide).sections := by
    apply List.ext_getElem?
    intro k
    rcases Nat.lt_or_ge k c.sections.length with hk | hk
    · exact h.tagged k hk
    · rw [h.left k hk, getElem?_tagged, List.getElem?_eq_none hk, Option.map_none]
  have hhidden : x.2 = (c.taggings hide).map Tagging.hidden := by
    rw [h.hidden, ← length_taggings c hide, List.take_length]
  obtain ⟨⟨sections, remarks⟩, hidden⟩ := x
  exact congrArg₂ Prod.mk (congrArg₂ Commentary.mk hsections h.remarks) hhidden

end Commentary

end LivingDoc
