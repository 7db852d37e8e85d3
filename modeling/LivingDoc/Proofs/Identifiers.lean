import LivingDoc.Proofs.Publication
import LivingDoc.Proofs.Slug
import LivingDoc.Proofs.SmallLetters

namespace LivingDoc

namespace Slug

open Unicode

def isPlain (c : Char) : Bool := isAlphanumeric c || c = '-'

variable {c d : Char} {l : List Char} {started pending : Bool}

theorem not_hyphen_of_isAlphanumeric (hc : isAlphanumeric c) : c ≠ '-' := by
  rintro rfl
  exact absurd hc (by decide)

theorem not_isBreak_of_mem_lowercase (hc : ¬ isBreak c) (hd : isAlphanumeric d)
    (hmem : d ∈ lowercase c) : ¬ isBreak d := by
  rw [isBreak, Bool.or_eq_true, not_or, Bool.not_eq_true] at hc
  rw [isBreak, Bool.or_eq_true, not_or, Bool.not_eq_true, decide_eq_true_eq]
  exact ⟨isBlank_of_mem_lowercase hc.1 hmem, not_hyphen_of_isAlphanumeric hd⟩

theorem join_small (hd : Small d) (hbreak : ¬ isBreak d) :
    join started pending (d :: l) =
      (if started && pending then ['-'] else []) ++ d :: join true false l := by
  rw [join, if_neg hbreak, if_pos hd.kept, hd.own, List.append_assoc, List.singleton_append]

theorem join_dot : join started pending ('\u0307' :: l) = join started pending l := by
  rw [join, if_neg (by decide), if_neg (by decide)]

theorem isPlain_of_small (hd : Small d) : isPlain d := by
  rw [isPlain, hd.kept, Bool.true_or]

theorem join_lowercase (hc : isAlphanumeric c) (hbreak : ¬ isBreak c) :
    join started pending (lowercase c ++ l) = (if started && pending then ['-'] else []) ++
      (lowercase c).filter isPlain ++ join true false l := by
  obtain ⟨d, hd, hlower⟩ := exists_small hc
  have hd' : ¬ isBreak d := by
    refine not_isBreak_of_mem_lowercase hbreak hd.kept ?_
    rw [hlower]
    exact List.mem_cons_self
  rw [hlower, List.filter_cons_of_pos (isPlain_of_small hd), List.cons_append, join_small hd hd']
  by_cases hdotted : c = '\u0130'
  · rw [if_pos hdotted, List.filter_cons_of_neg (by decide), List.singleton_append, join_dot,
      List.filter_nil, List.append_assoc, List.singleton_append]
  · rw [if_neg hdotted, List.filter_nil, List.nil_append, List.append_assoc, List.singleton_append]

theorem join_join (l : List Char) (started pending : Bool) :
    join started false (join started pending l) = (join started pending l).filter isPlain := by
  induction l generalizing started pending with
  | nil => rfl
  | cons c l ih =>
    by_cases hbreak : isBreak c
    · rw [join, if_pos hbreak]
      exact ih started true
    · by_cases hkept : isAlphanumeric c
      · rw [join, if_neg hbreak, if_pos hkept]
        by_cases hsep : (started && pending) = true
        · obtain ⟨rfl, -⟩ := Bool.and_eq_true_iff.mp hsep
          rw [if_pos hsep, List.append_assoc, List.singleton_append,
            List.filter_cons_of_pos (by decide), join, if_pos (by decide),
              join_lowercase hkept hbreak,
            List.filter_append, ih, if_pos (by decide), List.append_assoc, List.singleton_append]
        · rw [if_neg hsep, List.nil_append, join_lowercase hkept hbreak, Bool.and_false,
            if_neg Bool.false_ne_true, List.nil_append, List.filter_append, ih]
      · rw [join, if_neg hbreak, if_neg hkept]
        exact ih started pending

theorem forall_lowercase_iff (hc : isAlphanumeric c) :
    (∀ d ∈ lowercase c, isPlain d) ↔ c ≠ '\u0130' := by
  obtain ⟨d, hd, hlower⟩ := exists_small hc
  rw [hlower, List.forall_mem_cons]
  split
  · next hdotted =>
    rw [List.forall_mem_singleton]
    exact ⟨fun h ↦ absurd h.2 (by decide), fun h ↦ absurd hdotted h⟩
  · next hdotted => exact ⟨fun _ ↦ hdotted, fun _ ↦ ⟨isPlain_of_small hd, by simp⟩⟩

theorem forall_join_iff (l : List Char) (started pending : Bool) :
    (∀ d ∈ join started pending l, isPlain d) ↔ '\u0130' ∉ l := by
  induction l generalizing started pending with
  | nil => simp [join]
  | cons c l ih =>
    rw [List.mem_cons, not_or]
    by_cases hbreak : isBreak c
    · have hne : '\u0130' ≠ c := fun he ↦ absurd (he ▸ hbreak) (by decide)
      rw [join, if_pos hbreak, ih]
      exact (and_iff_right hne).symm
    · by_cases hkept : isAlphanumeric c
      · have hsep : ∀ d ∈ if started && pending then ['-'] else [], isPlain d := by
          split
          · rw [List.forall_mem_singleton]
            decide
          · simp
        rw [join, if_neg hbreak, if_pos hkept, List.forall_mem_append, List.forall_mem_append,
          forall_lowercase_iff hkept, ih, and_iff_right hsep, ne_comm]
      · have hne : '\u0130' ≠ c := fun he ↦ absurd (by decide) (he ▸ hkept)
        rw [join, if_neg hbreak, if_neg hkept, ih]
        exact (and_iff_right hne).symm

end Slug

theorem toList_slug_slug (name : String) :
    (slug (slug name)).toList = (slug name).toList.filter Slug.isPlain := by
  rw [toList_slug, toList_slug]
  exact Slug.join_join name.toList false false

theorem forall_slug_iff (name : String) :
    (∀ c ∈ (slug name).toList, Slug.isPlain c) ↔ '\u0130' ∉ name.toList := by
  rw [toList_slug]
  exact Slug.forall_join_iff name.toList false false

theorem slug_eq_self_iff (name : String) :
    slug (slug name) = slug name ↔ '\u0130' ∉ name.toList := by
  rw [← String.toList_inj, toList_slug_slug, List.filter_eq_self]
  exact forall_slug_iff name

theorem Publisher.identifiers_eq {p : Publisher} {doc : Gherkin.Document} {e : Edition}
    {page : Page}
    (he : p.publish doc = .ok e) (hp : e.page = some page) :
    page.id = p.slugOf page.title ∧ ∀ s ∈ page.sections, s.slug = some (p.slugOf s.title) := by
  obtain ⟨draft, hdraft, rfl⟩ := publish_eq_ok.mp he
  refine ⟨by rw [page_eq_some hp]; rfl, ?_⟩
  refine forall_right (forall₂_shows hdraft hp) fun ck t ht ↦ ?_
  rw [ht.own.1]
  obtain ⟨-, -, hslug, -⟩ := ht
  exact hslug

/-- Unless a name has a dotted capital I, its slug is made of letters, numerals and hyphens and is
its own slug. Otherwise neither holds: the next slug lacks the dots, and only that one is its own.
The same is true of the identifiers that a page and its sections get from the name. -/
theorem slug_slug_iff (name : String) :
    ((∀ c ∈ (slug name).toList, Slug.isPlain c) ↔ '\u0130' ∉ name.toList) ∧
      (slug (slug name) = slug name ↔ '\u0130' ∉ name.toList) ∧
      (slug (slug name)).toList = (slug name).toList.filter Slug.isPlain ∧
      slug (slug (slug name)) = slug (slug name) ∧
      ∀ (p : Publisher) (doc : Gherkin.Document) (e : Edition) (page : Page), p.slugOf = slug →
        p.publish doc = .ok e → e.page = some page →
        (page.title = name → (slug page.id = page.id ↔ '\u0130' ∉ name.toList)) ∧
          ∀ s ∈ page.sections, s.title = name →
            (s.slug.map slug = s.slug ↔ '\u0130' ∉ name.toList) := by
  refine ⟨forall_slug_iff name, slug_eq_self_iff name, toList_slug_slug name, ?_, ?_⟩
  · rw [← String.toList_inj, toList_slug_slug (slug name), toList_slug_slug, List.filter_filter]
    simp only [Bool.and_self]
  · intro p doc e page hslug he hp
    obtain ⟨hid, hsections⟩ := Publisher.identifiers_eq he hp
    rw [hslug] at hid hsections
    refine ⟨fun htitle ↦ ?_, fun s hs htitle ↦ ?_⟩
    · rw [hid, htitle]
      exact slug_eq_self_iff name
    · rw [hsections s hs, htitle, Option.map_some, Option.some_inj]
      exact slug_eq_self_iff name

theorem slug_slug_iff_gates :
    let doc : Gherkin.Document :=
      ⟨⟨"\u0130ki Kapı", none, [], none, none,
        [.scenario ⟨"Kapı Açılır", none, [], [], ⟨2, 3⟩⟩], ⟨1, 1⟩⟩, []⟩
    let p : Publisher := .ofSettings .default
    p.slugOf = slug ∧ ∃ e page s, p.publish doc = .ok e ∧ e.page = some page ∧ page.sections = [s] ∧
      slug page.id ≠ page.id ∧ s.slug.map slug = s.slug := by
  intro doc p
  let draft : Draft := ⟨none, [⟨"Kapı Açılır", "", ⟨2, 3⟩, [], [], none, .scenario "kapı-açılır"⟩]⟩
  have he : p.publish doc = .ok (p.finish doc draft) := by decide +kernel
  have htitles : ((p.finish doc draft).page.map fun page ↦
      (page.title, page.sections.map Section.title)) = some ("\u0130ki Kapı", ["Kapı Açılır"]) := by
    decide +kernel
  obtain ⟨page, hp, ht⟩ := Option.map_eq_some_iff.mp htitles
  obtain ⟨htitle, hsections⟩ := Prod.mk.inj ht
  obtain ⟨s, hs, hname⟩ := List.map_eq_singleton_iff.mp hsections
  obtain ⟨-, -, -, -, hfeature⟩ := slug_slug_iff "\u0130ki Kapı"
  obtain ⟨-, -, -, -, hscenario⟩ := slug_slug_iff "Kapı Açılır"
  have hid := (hfeature p doc _ page rfl he hp).1 htitle
  have hslug := (hscenario p doc _ page rfl he hp).2 s (hs ▸ List.mem_singleton_self s) hname
  exact ⟨rfl, _, page, s, he, hp, hs, mt hid.mp (by decide), hslug.mpr (by decide)⟩

/-- The dot that the lower case of the dotted capital I keeps is gone from the next slug. -/
theorem slug_slug_dotted :
    (∃ c ∈ (slug "\u0130").toList, ¬ Slug.isPlain c) ∧ slug (slug "\u0130") ≠ slug "\u0130" ∧
      slug (slug "\u0130") = "i" := by
  have hdot : '\u0307' ∈ (slug "\u0130").toList := by decide +kernel
  exact ⟨⟨'\u0307', hdot, by decide⟩, by decide +kernel, by decide +kernel⟩

end LivingDoc
