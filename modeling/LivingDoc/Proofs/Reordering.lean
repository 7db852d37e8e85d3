import LivingDoc.Proofs.Conservation

namespace LivingDoc

theorem Position.le_antisymm {p q : Position} (hpq : p.le q) (hqp : q.le p) : p = q := by
  obtain ⟨line, column⟩ := p
  obtain ⟨line', column'⟩ := q
  simp only [le, Bool.or_eq_true, Bool.and_eq_true, decide_eq_true_eq] at hpq hqp
  obtain ⟨rfl, rfl⟩ : line = line' ∧ column = column' := by omega
  rfl

section Places

variable {α : Type} {key : α → Position} {l m : List α}

theorem mem_iff_of_filter_eq (h : ∀ place, l.filter (key · = place) = m.filter (key · = place))
    (a : α) : a ∈ l ↔ a ∈ m := by
  have ha : a ∈ l.filter (key · = key a) ↔ a ∈ m.filter (key · = key a) := by rw [h]
  simpa using ha

/-- A list in reading order is told from its entries at each place. -/
theorem eq_of_filter_eq (hl : l.Pairwise fun a b ↦ (key a).le (key b))
    (hm : m.Pairwise fun a b ↦ (key a).le (key b))
    (h : ∀ place, l.filter (key · = place) = m.filter (key · = place)) : l = m := by
  induction l generalizing m with
  | nil =>
    refine (List.eq_nil_iff_forall_not_mem.mpr fun b hb ↦ ?_).symm
    exact List.not_mem_nil ((mem_iff_of_filter_eq h b).mpr hb)
  | cons a l ih =>
    have hma : a ∈ m := (mem_iff_of_filter_eq h a).mp List.mem_cons_self
    cases m with
    | nil => exact absurd hma List.not_mem_nil
    | cons b m =>
      have hlb : b ∈ a :: l := (mem_iff_of_filter_eq h b).mpr List.mem_cons_self
      obtain ⟨ha, hl'⟩ := List.pairwise_cons.mp hl
      obtain ⟨hb, hm'⟩ := List.pairwise_cons.mp hm
      -- Both lists begin at the least place, and so with the first entry there.
      have hkey : key a = key b := by
        rcases List.mem_cons.mp hlb with hba | hlb
        · rw [hba]
        · rcases List.mem_cons.mp hma with hab | hma
          · rw [hab]
          · exact Position.le_antisymm (ha b hlb) (hb a hma)
      have hhead : a :: l.filter (key · = key b) = b :: m.filter (key · = key b) := by
        simpa [hkey] using h (key b)
      obtain ⟨rfl, -⟩ := List.cons.inj hhead
      refine congrArg (a :: ·) (ih hl' hm' fun place ↦ ?_)
      have hplace := h place
      by_cases hp : key a = place
      · simpa [hp] using hplace
      · simpa [hp] using hplace

theorem filter_eq_of_perm (hp : l.Perm m) (hd : (m.map key).Nodup) (place : Position) :
    l.filter (key · = place) = m.filter (key · = place) := by
  have hperm := hp.filter (key · = place)
  have hlen : (m.filter (key · = place)).length ≤ 1 := by
    have hmap : (m.filter (key · = place)).map key =
        List.replicate (m.filter (key · = place)).length place := by
      refine List.eq_replicate_iff.mpr ⟨List.length_map _, fun q hq ↦ ?_⟩
      obtain ⟨a, ha, rfl⟩ := List.mem_map.mp hq
      exact of_decide_eq_true (List.mem_filter.mp ha).2
    have hn : ((m.filter (key · = place)).map key).Nodup :=
      (List.filter_sublist.map key).nodup hd
    rwa [hmap, List.nodup_replicate] at hn
  match hm : m.filter (key · = place), hlen with
  | [], _ => rwa [hm, List.perm_nil] at hperm
  | [a], _ => rwa [hm, List.perm_singleton] at hperm

end Places

namespace Publisher

variable (p : Publisher) {doc : Gherkin.Document} {comments : List Gherkin.Comment}

theorem inOrder_congr (h : ∀ place,
    comments.filter (·.position = place) = doc.comments.filter (·.position = place)) :
    ({ doc with comments } : Gherkin.Document).inOrder = doc.inOrder := by
  have hplace (place : Position) :
      ({ doc with comments } : Gherkin.Document).inOrder.filter (·.position = place) =
        doc.inOrder.filter (·.position = place) := by
    rw [Gherkin.Document.inOrder, Gherkin.Document.inOrder, filter_mergeSort_place,
      filter_mergeSort_place]
    exact h place
  exact eq_of_filter_eq (Gherkin.Document.pairwise_inOrder _) doc.pairwise_inOrder hplace

/-- What comes of a document, events included, is told from the comments at each place. -/
theorem publish_congr (h : ∀ place,
    comments.filter (·.position = place) = doc.comments.filter (·.position = place)) :
    p.publish { doc with comments } = p.publish doc := by
  have hc : p.commentary { doc with comments } = p.commentary doc := by
    funext draft
    rw [commentary, commentary, remarksOf_eq doc, ← inOrder_congr h, ← remarksOf_eq]
  have hf : p.finish { doc with comments } = p.finish doc := by
    funext draft
    rw [finish, hc, finish]
  rw [publish, hf, publish]

/-- Comments of which no two share a place may be listed in any order. -/
theorem publish_perm (hp : comments.Perm doc.comments)
    (hd : (doc.comments.map Gherkin.Comment.position).Nodup) :
    p.publish { doc with comments } = p.publish doc :=
  p.publish_congr (filter_eq_of_perm hp hd)

theorem publish_perm_reversed :
    let scenario : Gherkin.Scenario := ⟨"Open", none, [], [], ⟨3, 3⟩⟩
    let doc : Gherkin.Document :=
      ⟨⟨"Doors", none, [], none, none, [.scenario scenario], ⟨1, 1⟩⟩,
        [⟨"# (B-1)", ⟨2, 3⟩⟩, ⟨"# (B-2)", ⟨2, 12⟩⟩]⟩
    let p : Publisher :=
      ⟨⟨.empty, .empty, ⟨true, true⟩, .info⟩, some ⟨[], [], [], [], []⟩, id⟩
    doc.comments.reverse.Perm doc.comments ∧
      (doc.comments.map Gherkin.Comment.position).Nodup ∧
      ∃ e page, p.publish { doc with comments := doc.comments.reverse } = .ok e ∧
        e.page = some page ∧ page.sections.map Section.tags = [["@B_1", "@B_2"]] := by
  intro scenario doc p
  have hp : doc.comments.reverse.Perm doc.comments := List.reverse_perm _
  have hd : (doc.comments.map Gherkin.Comment.position).Nodup := by decide
  let draft : Draft := ⟨none, [⟨"Open", "", ⟨3, 3⟩, [], [], none, .scenario "Open"⟩]⟩
  have he : p.publish doc = .ok (p.finish doc draft) := rfl
  have hr : remarksOf doc.comments = doc.comments.map remarkOf :=
    List.mergeSort_of_pairwise (by decide)
  have hc : p.commentary doc draft = ⟨draft.sections, doc.comments.map remarkOf⟩ :=
    congrArg (Commentary.mk draft.sections) hr
  have hsome : ((p.finish doc draft).page.map fun page ↦ page.sections.map Section.tags) =
      some [["@B_1", "@B_2"]] := by
    rw [finish, hc]
    decide +kernel
  obtain ⟨page, hpage, ht⟩ := Option.map_eq_some_iff.mp hsome
  exact ⟨hp, hd, _, page, (publish_perm p hp hd).trans he, hpage, ht⟩

end Publisher

end LivingDoc
