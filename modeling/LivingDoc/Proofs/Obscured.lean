import LivingDoc.Proofs.Draft
import LivingDoc.Proofs.Tagging

namespace LivingDoc

theorem filter_eraseDups {α : Type} [BEq α] [LawfulBEq α] (p : α → Bool) (l : List α) :
    l.eraseDups.filter p = (l.filter p).eraseDups := by
  induction l using List.reverseRecOn with
  | nil => rfl
  | append_singleton l a ih =>
    rw [eraseDups_concat, List.filter_append, List.filter_append, ih, List.filter_singleton]
    by_cases hp : p a
    · rw [hp, Bool.cond_true, eraseDups_concat]
      congr 1
      by_cases ha : a ∈ l <;> simp [ha, hp]
    · rw [Bool.not_eq_true] at hp
      rw [hp, Bool.cond_false, List.append_nil]
      by_cases ha : a ∈ l <;> simp [ha, hp]

namespace Tagging

variable {hide : TagFilter} {tags : List String} {remarks : List Remark} {tag story : String}

/-- A story that a remark names and whose former tag is there, but hidden. -/
structure Obscured (hide : TagFilter) (tags : List String) (remarks : List Remark)
    (story : String) : Prop where
  named : ∃ r ∈ remarks, (Citation.ofText r.text).story = some story
  former : "@B" ++ story ∈ tags
  hidden : hide.matchesTag ("@B" ++ story)

theorem Obscured.mem_offers (h : Obscured hide tags remarks story) :
    "@B_" ++ story ∈ offers (hide.visible tags) remarks := by
  refine storyTag_mem_offers.mpr ⟨h.named, fun hv ↦ ?_⟩
  rw [TagFilter.mem_visible, h.hidden] at hv
  exact Bool.noConfusion hv.2

theorem Obscured.not_mem_offers (h : Obscured hide tags remarks story) :
    "@B_" ++ story ∉ offers tags remarks :=
  fun ho ↦ (storyTag_mem_offers.mp ho).2 h.former

/-- What is offered once tags are hidden is what is offered anyway, and the obscured stories. -/
theorem mem_offers_visible : tag ∈ offers (hide.visible tags) remarks ↔
    tag ∈ offers tags remarks ∨
      ∃ story, Obscured hide tags remarks story ∧ tag = "@B_" ++ story := by
  constructor
  · intro h
    rcases mem_offers.mp h with ht | ⟨story, hs, hv, rfl⟩
    · exact .inl (mem_offers.mpr (.inl ht))
    · by_cases hf : "@B" ++ story ∈ tags
      · have hh : hide.matchesTag ("@B" ++ story) := by simpa [TagFilter.mem_visible, hf] using hv
        exact .inr ⟨story, ⟨hs, hf, hh⟩, rfl⟩
      · exact .inl (storyTag_mem_offers.mpr ⟨hs, hf⟩)
  · intro h
    rcases h with h | ⟨story, hs, rfl⟩
    · rcases mem_offers.mp h with ht | ⟨story, hs, hf, rfl⟩
      · exact mem_offers.mpr (.inl ht)
      · exact storyTag_mem_offers.mpr ⟨hs, fun hv ↦ hf (TagFilter.mem_visible.mp hv).1⟩
    · exact hs.mem_offers

theorem filter_offers_visible {q : String → Bool}
    (hq : ∀ story, Obscured hide tags remarks story → q ("@B_" ++ story) = false) :
    (offers (hide.visible tags) remarks).filter q = (offers tags remarks).filter q := by
  rw [offers, offers, List.filter_flatMap, List.filter_flatMap]
  apply List.flatMap_congr
  intro r hr
  rw [Citation.offers, Citation.offers, List.filter_append, List.filter_append]
  congr 1
  rw [Citation.formerStoryTag, Citation.storyTag]
  cases hs : (Citation.ofText r.text).story with
  | none => rfl
  | some story =>
    by_cases hf : "@B" ++ story ∈ tags
    · cases hh : hide.matchesTag ("@B" ++ story) with
      | true =>
        have hn := hq story ⟨⟨r, hr, hs⟩, hf, hh⟩
        simp [TagFilter.mem_visible, hf, hh, hn]
      | false => simp [TagFilter.mem_visible, hf, hh]
    · simp [TagFilter.mem_visible, hf]

theorem added_visible_iff :
    added hide (hide.visible tags) (offers (hide.visible tags) remarks) =
        hide.visible (added .empty tags (offers tags remarks)) ↔
      ∀ story, Obscured hide tags remarks story →
        hide.matchesTag ("@B_" ++ story) ∨ "@B_" ++ story ∈ tags := by
  constructor
  · intro h story hs
    by_contra hn
    rw [not_or, Bool.not_eq_true] at hn
    have hv : "@B_" ++ story ∉ hide.visible tags := fun hv ↦ hn.2 (TagFilter.mem_visible.mp hv).1
    have ha := mem_added.mpr ⟨hs.mem_offers, hn.1, hv⟩
    rw [h, TagFilter.mem_visible, mem_added] at ha
    exact hs.not_mem_offers ha.1.1
  · intro h
    have hq : (fun t ↦ !hide.matchesTag t && !(hide.visible tags).contains t) =
        fun t ↦ !hide.matchesTag t && (!TagFilter.empty.matchesTag t && !tags.contains t) := by
      funext t
      cases hm : hide.matchesTag t <;> simp [TagFilter.mem_visible, TagFilter.matchesTag_empty, hm]
    have hr : hide.visible (added .empty tags (offers tags remarks)) =
        ((offers tags remarks).filter fun t ↦
          !hide.matchesTag t && !(hide.visible tags).contains t).eraseDups := by
      rw [hq, added, TagFilter.visible, filter_eraseDups, List.filter_filter]
    rw [hr, added]
    congr 1
    apply filter_offers_visible
    intro story hs
    rcases h story hs with hm | hm
    · simp [hm]
    · simp [TagFilter.mem_visible, hm]

/-- Of what is offered, the obscured stories alone can be excluded through hiding. -/
theorem matchesAny_offers_visible {exclude : TagFilter}
    (h : exclude.matchesAny (offers tags remarks) = false) :
    exclude.matchesAny (offers (hide.visible tags) remarks) = false ↔
      ∀ story, Obscured hide tags remarks story → exclude.matchesTag ("@B_" ++ story) = false := by
  simp only [TagFilter.matchesAny, List.any_eq_false, Bool.not_eq_true] at h ⊢
  constructor
  · exact fun hv story hs ↦ hv _ hs.mem_offers
  · intro hs tag ht
    rcases mem_offers_visible.mp ht with ht | ⟨story, ho, rfl⟩
    · exact h tag ht
    · exact hs story ho

theorem matchesAny_offers_mono {exclude : TagFilter}
    (h : exclude.matchesAny (offers tags remarks)) :
    exclude.matchesAny (offers (hide.visible tags) remarks) := by
  obtain ⟨tag, ht, hm⟩ := List.any_eq_true.mp h
  exact List.any_eq_true.mpr ⟨tag, mem_offers_visible.mpr (.inl ht), hm⟩

end Tagging

end LivingDoc
