import LivingDoc.Proofs.Citation
import LivingDoc.Tagging
import Mathlib.Data.List.Induction
import Mathlib.Data.List.Nodup

namespace LivingDoc

theorem nodup_eraseDups {α : Type} [BEq α] [LawfulBEq α] : ∀ l : List α, l.eraseDups.Nodup
  | [] => List.nodup_nil
  | a :: l => by
    rw [List.eraseDups_cons, List.nodup_cons]
    exact ⟨by simp [List.mem_eraseDups], nodup_eraseDups _⟩
termination_by l => l.length
decreasing_by exact Nat.lt_succ_of_le (List.length_filter_le _ _)

theorem eraseDups_concat {α : Type} [BEq α] [LawfulBEq α] (l : List α) (a : α) :
    (l ++ [a]).eraseDups = l.eraseDups ++ if l.contains a then [] else [a] := by
  rw [List.eraseDups_append, List.removeAll, List.filter_singleton, List.elem_eq_contains]
  cases l.contains a <;> simp [List.eraseDups_cons]

namespace Citation

/-- The tags that a citation offers to a section with the given tags: that of its theme, and that
of its story unless the former one is there. -/
def offers (tags : List String) (c : Citation) : List String :=
  c.themeTag.toList ++ if c.formerStoryTag.any tags.contains then [] else c.storyTag.toList

variable {tags : List String} {text tag story : String}

theorem mem_offers {c : Citation} : tag ∈ c.offers tags ↔ c.themeTag = some tag ∨
    ∃ story, c.story = some story ∧ "@B" ++ story ∉ tags ∧ tag = "@B_" ++ story := by
  rw [offers, List.mem_append, Option.mem_toList]
  refine or_congr Iff.rfl ?_
  rw [storyTag, formerStoryTag]
  cases c.story with
  | none => simp
  | some story => by_cases hs : "@B" ++ story ∈ tags <;> simp [hs]

theorem isTag_of_mem_offers (h : tag ∈ (ofText text).offers tags) :
    IsThemeTag tag ∨ IsStoryTag tag := by
  rcases mem_offers.mp h with ht | ⟨story, hs, -, rfl⟩
  · obtain ⟨theme, htheme, rfl⟩ := Option.map_eq_some_iff.mp ht
    exact .inl ⟨theme, isTheme_of_ofText htheme, rfl⟩
  · exact .inr ⟨story, isStory_of_ofText hs, rfl⟩

theorem themeTag_ne {c : Citation} : c.themeTag ≠ some ("@B_" ++ story) := by
  intro h
  obtain ⟨theme, -, he⟩ := Option.map_eq_some_iff.mp h
  exact themeTag_ne_storyTag theme story he

end Citation

namespace Tagging

open Citation

def offers (tags : List String) (remarks : List Remark) : List String :=
  remarks.flatMap fun r ↦ (Citation.ofText r.text).offers tags

variable {hide : TagFilter} {tags l : List String} {remarks : List Remark} {tag story : String}

theorem mem_offers : tag ∈ offers tags remarks ↔
    (∃ r ∈ remarks, (ofText r.text).themeTag = some tag) ∨
      ∃ story, (∃ r ∈ remarks, (ofText r.text).story = some story) ∧ "@B" ++ story ∉ tags ∧
        tag = "@B_" ++ story := by
  simp only [offers, List.mem_flatMap, Citation.mem_offers]
  constructor
  · intro h
    obtain ⟨r, hr, ht | ⟨story, hs, hf, he⟩⟩ := h
    · exact .inl ⟨r, hr, ht⟩
    · exact .inr ⟨story, ⟨r, hr, hs⟩, hf, he⟩
  · intro h
    rcases h with ⟨r, hr, ht⟩ | ⟨story, ⟨r, hr, hs⟩, hf, he⟩
    · exact ⟨r, hr, .inl ht⟩
    · exact ⟨r, hr, .inr ⟨story, hs, hf, he⟩⟩

theorem isTag_of_mem_offers (h : tag ∈ offers tags remarks) : IsThemeTag tag ∨ IsStoryTag tag := by
  obtain ⟨r, -, hr⟩ := List.mem_flatMap.mp h
  exact Citation.isTag_of_mem_offers hr

/-- The tag of a story is offered exactly if a remark names the story and its former tag is not
there. -/
theorem storyTag_mem_offers :
    "@B_" ++ story ∈ offers tags remarks ↔
      (∃ r ∈ remarks, (ofText r.text).story = some story) ∧ "@B" ++ story ∉ tags := by
  rw [mem_offers]
  constructor
  · intro h
    rcases h with ⟨r, -, ht⟩ | ⟨other, hs, hf, he⟩
    · exact absurd ht themeTag_ne
    · obtain rfl := (String.append_right_inj _).mp he
      exact ⟨hs, hf⟩
  · intro h
    obtain ⟨hs, hf⟩ := h
    exact .inr ⟨story, hs, hf, rfl⟩

variable (hide tags l) in
def added : List String :=
  (l.filter fun t ↦ !hide.matchesTag t && !tags.contains t).eraseDups

theorem mem_added :
    tag ∈ added hide tags l ↔ tag ∈ l ∧ hide.matchesTag tag = false ∧ tag ∉ tags := by
  simp [added, List.mem_eraseDups]

theorem nodup_added : (added hide tags l).Nodup := nodup_eraseDups _

theorem added_concat : added hide tags (l ++ [tag]) = added hide tags l ++
    if hide.matchesTag tag || (tags ++ added hide tags l).contains tag then [] else [tag] := by
  rw [added, List.filter_append, List.filter_singleton]
  by_cases hm : hide.matchesTag tag
  · simp [hm, added]
  · by_cases hb : tag ∈ tags
    · simp [hm, hb, added]
    · rw [Bool.not_eq_true] at hm
      have hc : (!hide.matchesTag tag && !tags.contains tag) = true := by simp [hm, hb]
      rw [hc, Bool.cond_true, eraseDups_concat]
      simp [hm, hb, added, List.mem_eraseDups]

/-- What remarks may add to the tags of a section. -/
structure Supplement (tags more : List String) : Prop where
  nodup : more.Nodup
  absent : ∀ t ∈ more, t ∉ tags
  form : ∀ t ∈ more, IsThemeTag t ∨ IsStoryTag t
  former : ∀ story, "@B" ++ story ∈ tags → "@B_" ++ story ∉ more

theorem supplement_nil : Supplement tags [] where
  nodup := List.nodup_nil
  absent := by simp
  form := by simp
  former := by simp

theorem supplement_added : Supplement tags (added hide tags (offers tags remarks)) where
  nodup := nodup_added
  absent _ ht := (mem_added.mp ht).2.2
  form _ ht := isTag_of_mem_offers (mem_added.mp ht).1
  former _ hs ht := (storyTag_mem_offers.mp (mem_added.mp ht).1).2 hs

variable (hide tags l) in
/-- The state of a section that had the given tags and was offered those of the list. -/
structure Took (t : Tagging) : Prop where
  tags_eq : t.tags = tags ++ added hide tags l
  hidden_eq : t.hidden = l.filter hide.matchesTag

theorem took_start : Took hide tags [] (start tags) := ⟨(List.append_nil _).symm, rfl⟩

theorem Took.give {t : Tagging} (h : Took hide tags l t) (r : Reference) (tag : String) :
    Took hide tags (l ++ [tag]) (t.give hide r tag) := by
  obtain ⟨ht, hh⟩ := h
  unfold Tagging.give
  split
  · next hm =>
    refine ⟨?_, ?_⟩
    · rw [added_concat, ht, hm, Bool.true_or, if_pos rfl, List.append_nil]
    · simpa [hidden, hm] using hh
  · next hm =>
    rw [Bool.not_eq_true] at hm
    split
    · next hc =>
      rw [ht] at hc
      refine ⟨?_, ?_⟩
      · rw [added_concat, ht, hc, Bool.or_true, if_pos rfl, List.append_nil]
      · rw [hh, List.filter_append, List.filter_singleton, hm, Bool.cond_false, List.append_nil]
    · next hc =>
      rw [Bool.not_eq_true, ht] at hc
      refine ⟨?_, ?_⟩
      · rw [added_concat, ht, hc, hm, Bool.or_false, if_neg Bool.false_ne_true, List.append_assoc]
      · simpa [hidden, hm] using hh

theorem Took.contains_former {t : Tagging} (h : Took hide tags l t)
    (hl : ∀ x ∈ l, IsThemeTag x ∨ IsStoryTag x) (hs : IsStory story) :
    t.tags.contains ("@B" ++ story) = tags.contains ("@B" ++ story) := by
  have hn : "@B" ++ story ∉ added hide tags l :=
    fun hm ↦ formerTag_not_derived hs (hl _ (mem_added.mp hm).1) rfl
  rw [h.tags_eq, List.contains_append,
    List.contains_eq_mem (a := "@B" ++ story) (added hide tags l), decide_eq_false hn,
    Bool.or_false]

theorem Took.cite {t : Tagging} (h : Took hide tags l t)
    (hl : ∀ x ∈ l, IsThemeTag x ∨ IsStoryTag x) (text : String) :
    Took hide tags (l ++ (ofText text).offers tags) (t.cite hide (ofText text)) := by
  have htheme : Took hide tags (l ++ (ofText text).themeTag.toList)
      (((ofText text).themeTag.map (t.give hide .theme)).getD t) := by
    cases (ofText text).themeTag with
    | none => simpa using h
    | some tag => exact h.give .theme tag
  have hltheme : ∀ x ∈ l ++ (ofText text).themeTag.toList, IsThemeTag x ∨ IsStoryTag x := by
    intro x hx
    rcases List.mem_append.mp hx with hx | hx
    · exact hl x hx
    · have ho : x ∈ (ofText text).offers tags := List.mem_append_left _ hx
      exact Citation.isTag_of_mem_offers ho
  unfold Tagging.cite
  rw [Citation.offers, ← List.append_assoc]
  cases hs : (ofText text).story with
  | none => simpa [formerStoryTag, storyTag, hs] using htheme
  | some story =>
    have hf := htheme.contains_former hltheme (isStory_of_ofText hs)
    simp only [formerStoryTag, storyTag, hs, Option.map_some, Option.any_some, hf]
    split
    · simpa only [List.append_nil] using htheme
    · exact htheme.give .story _

/-- All remarks are read: the closed form of what a section takes from them. -/
theorem took_read (hide : TagFilter) (tags : List String) (remarks : List Remark) :
    Took hide tags (offers tags remarks) ((start tags).read hide remarks) := by
  induction remarks using List.reverseRecOn with
  | nil => exact took_start
  | append_singleton remarks r ih =>
    have h := ih.cite (fun x hx ↦ isTag_of_mem_offers hx) r.text
    simpa only [offers, read, List.flatMap_append, List.flatMap_singleton, List.foldl_append,
      List.foldl_cons, List.foldl_nil] using h

end Tagging

end LivingDoc
