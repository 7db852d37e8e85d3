import LivingDoc.Proofs.Retention

namespace LivingDoc

theorem sublistForall₂_of_sublist {α β : Type} {R : α → β → Prop} {l l' : List α} {m : List β}
    (h : List.Forall₂ R l m) (hl : l'.Sublist l) : List.SublistForall₂ R l' m := by
  induction hl generalizing m with
  | slnil => exact .nil
  | cons a _ ih =>
    cases h with
    | cons hab h => exact .cons_right (ih h)
  | cons_cons a _ ih =>
    cases h with
    | cons hab h => exact .cons hab (ih h)

theorem TagFilter.matchesAny_mono {f g : TagFilter}
    (h : ∀ tag, f.matchesTag tag → g.matchesTag tag) {tags : List String}
    (ht : f.matchesAny tags) : g.matchesAny tags := by
  obtain ⟨tag, hm, hf⟩ := List.any_eq_true.mp ht
  exact List.any_eq_true.mpr ⟨tag, hm, h tag hf⟩

/-- What may become of an outcome once more is left out: an error stays, and a page may go, or keep
some of its sections, each of them changed as the relation says. -/
inductive Suppressed (R : Section → Section → Prop) :
    Except DraftError (Option Page) → Except DraftError (Option Page) → Prop
  | error (e : DraftError) : Suppressed R (.error e) (.error e)
  | absent (x : Option Page) : Suppressed R (.ok x) (.ok none)
  | present {page : Page} {kept sections : List Section} : kept.Sublist page.sections →
      List.Forall₂ R kept sections →
      Suppressed R (.ok (some page)) (.ok (some { page with sections }))

/-- A section to which derived tags have been added at the end, if any. -/
def Section.Extends (s t : Section) : Prop :=
  ∃ more, t = { s with tags := s.tags ++ more } ∧ Tagging.Supplement s.tags more

namespace Publisher

variable {p q : Publisher} {doc : Gherkin.Document} {R : Section → Section → Prop}

def excluding (p : Publisher) (exclude : TagFilter) : Publisher :=
  { p with settings := { p.settings with exclude } }

/-- How one publisher treats a document more sternly than another. -/
structure Sterner (R : Section → Section → Prop) (p q : Publisher) (doc : Gherkin.Document) :
    Prop where
  drafter : q.drafter doc.feature = p.drafter doc.feature
  feature : p.settings.exclude.matchesAny doc.feature.tags →
    q.settings.exclude.matchesAny doc.feature.tags
  child : ∀ draft child k, p.settings.exclude.matchesAny (p.classification doc draft child k) →
    q.settings.exclude.matchesAny (q.classification doc draft child k)
  frame : ∀ draft : Draft,
    q.page doc.feature draft.background (q.commentary doc draft).attached.remarks [] =
      p.page doc.feature draft.background (p.commentary doc draft).attached.remarks []
  shows : ∀ draft child k s t, p.Shows doc draft child k s → q.Shows doc draft child k t → R s t

theorem Sterner.included_sublist (h : Sterner R p q doc) (draft : Draft) :
    (q.included doc draft).Sublist (p.included doc draft) := by
  refine List.monotone_filter_right _ fun ck hq ↦ ?_
  rw [Bool.not_eq_true'] at hq ⊢
  by_contra hp
  rw [Bool.not_eq_false] at hp
  exact Bool.noConfusion ((h.child draft ck.1 ck.2 hp).symm.trans hq)

theorem Sterner.page_eq_none (h : Sterner R p q doc) {draft : Draft}
    (hd : (p.drafter doc.feature).feature doc.feature = .ok draft)
    (hp : (p.finish doc draft).page = none) : (q.finish doc draft).page = none := by
  have hd' : (q.drafter doc.feature).feature doc.feature = .ok draft := h.drafter ▸ hd
  refine (page_eq_none_iff hd').mpr (((page_eq_none_iff hd).mp hp).imp h.feature ?_)
  rintro ⟨hne, hall⟩
  exact ⟨hne, fun ck hck ↦ h.child draft ck.1 ck.2 (hall ck hck)⟩

theorem Sterner.suppressed (h : Sterner R p q doc) :
    Suppressed R ((p.publish doc).map Edition.page) ((q.publish doc).map Edition.page) := by
  rw [publish, publish, h.drafter]
  cases hd : (p.drafter doc.feature).feature doc.feature with
  | error e => exact .error e
  | ok draft =>
    have hd' : (q.drafter doc.feature).feature doc.feature = .ok draft := h.drafter ▸ hd
    dsimp only [Except.map]
    cases hq : (q.finish doc draft).page with
    | none => exact .absent _
    | some page' =>
      cases hp : (p.finish doc draft).page with
      | none =>
        rw [h.page_eq_none hd hp] at hq
        cases hq
      | some page =>
        obtain ⟨kept, hkept, hsub⟩ := List.sublistForall₂_iff.mp
          (sublistForall₂_of_sublist (forall₂_shows hd hp) (h.included_sublist draft))
        have hframe := page_eq_frame hq
        rw [h.frame] at hframe
        have hpage : page' = { page with sections := page'.sections } := by
          rw [page_eq_frame hp]
          exact hframe
        rw [hpage]
        exact .present hsub (forall₂_of_common hkept (forall₂_shows hd' hq)
          fun ck s t hs ht ↦ h.shows draft ck.1 ck.2 s t hs ht)

theorem sterner_excluding (p : Publisher) (doc : Gherkin.Document) {exclude : TagFilter}
    (h : ∀ tag, p.settings.exclude.matchesTag tag → exclude.matchesTag tag) :
    Sterner Eq p (p.excluding exclude) doc where
  drafter := rfl
  feature := TagFilter.matchesAny_mono h
  child _ _ _ := TagFilter.matchesAny_mono h
  frame _ := rfl
  shows _ _ _ _ _ hs ht := hs.unique ht

theorem sterner_reading (p : Publisher) (doc : Gherkin.Document) (retains : Bool) :
    Sterner Section.Extends (p.reading ⟨false, retains⟩) (p.reading ⟨true, retains⟩) doc where
  drafter := rfl
  feature := id
  child draft child k h := by
    rw [classification_of_ignored rfl] at h
    rw [classification, TagFilter.matchesAny_append, Bool.or_eq_true]
    exact .inl h
  frame draft := by
    cases retains with
    | false => rfl
    | true =>
      rw [p.commentary_reading ⟨true, true⟩ ⟨false, true⟩ rfl]
      rfl
  shows draft child k s t hs ht := by
    have htags : s.tags = (p.reading ⟨true, retains⟩).settings.hide.visible child.tags := by
      rw [hs.own.2.2, derived_of_not rfl, List.append_nil]
      rfl
    refine ⟨(p.reading ⟨true, retains⟩).derived doc draft child k, ?_, htags ▸ supplement_derived⟩
    have hremarks (j : Nat) : (if (p.reading ⟨true, retains⟩).settings.remarks.retains then
          Placed.on ((p.reading ⟨true, retains⟩).commentary doc draft).placed k j else []) =
        if (p.reading ⟨false, retains⟩).settings.remarks.retains then
          Placed.on ((p.reading ⟨false, retains⟩).commentary doc draft).placed k j else [] := by
      cases retains with
      | false => rfl
      | true =>
        rw [p.commentary_reading ⟨true, true⟩ ⟨false, true⟩ rfl]
        rfl
    rw [htags]
    obtain ⟨u, hu, -, rfl⟩ := hs
    obtain ⟨u', hu', -, rfl⟩ := ht
    obtain rfl : u = u' := Except.ok.inj (hu.symm.trans hu')
    simp only [hremarks]
    rfl

/-- To exclude more tags drops sections and changes none of those that stay. To take tags from
remarks besides drops sections, and adds derived tags to those that stay. In neither case does a
page appear that was not there before. -/
theorem publish_suppressed (p : Publisher) (doc : Gherkin.Document) :
    (∀ exclude : TagFilter,
      (∀ tag, p.settings.exclude.matchesTag tag → exclude.matchesTag tag) →
      Suppressed Eq ((p.publish doc).map Edition.page)
        (((p.excluding exclude).publish doc).map Edition.page)) ∧
    ∀ retains, Suppressed Section.Extends
      (((p.reading ⟨false, retains⟩).publish doc).map Edition.page)
      (((p.reading ⟨true, retains⟩).publish doc).map Edition.page) :=
  ⟨fun _ h ↦ (p.sterner_excluding doc h).suppressed,
    fun retains ↦ (p.sterner_reading doc retains).suppressed⟩

theorem publish_suppressed_theme :
    let first : Gherkin.Scenario :=
      ⟨"Open", none, ["@smoke"], [⟨"Given ", "a door", none, ⟨4, 5⟩⟩], ⟨3, 3⟩⟩
    let second : Gherkin.Scenario := ⟨"Shut", none, ["@T_10_4"], [], ⟨6, 3⟩⟩
    let doc : Gherkin.Document :=
      ⟨⟨"Doors", none, [], none, none, [.scenario first, .scenario second], ⟨1, 1⟩⟩,
        [⟨"# RI:10-3", ⟨2, 3⟩⟩]⟩
    let p : Publisher :=
      ⟨⟨.empty, ⟨["old"]⟩, ⟨true, false⟩, .info⟩, some ⟨["Given"], [], [], [], []⟩, id⟩
    let exclude : TagFilter := ⟨["old", "T_10_3"]⟩
    (∀ tag, p.settings.exclude.matchesTag tag → exclude.matchesTag tag) ∧
      ((p.publish doc).toOption.bind Edition.page).map (·.sections.map Section.title) =
        some ["Open", "Shut"] ∧
      (((p.excluding exclude).publish doc).toOption.bind Edition.page).map
        (·.sections.map Section.title) = some ["Shut"] ∧
      Suppressed Eq ((p.publish doc).map Edition.page)
        (((p.excluding exclude).publish doc).map Edition.page) := by
  intro first second doc p exclude
  have hmono (tag : String) (h : p.settings.exclude.matchesTag tag) : exclude.matchesTag tag := by
    obtain ⟨name, hm, hn⟩ := List.any_eq_true.mp h
    exact List.any_eq_true.mpr ⟨name, List.mem_append_left ["T_10_3"] hm, hn⟩
  let draft : Draft :=
    ⟨none, [⟨"Open", "", ⟨3, 3⟩, ["@smoke"],
        [⟨⟨4, 5⟩, .context, "Given ", "a door", none, []⟩], none, .scenario "Open"⟩,
      ⟨"Shut", "", ⟨6, 3⟩, ["@T_10_4"], [], none, .scenario "Shut"⟩]⟩
  let remark : Remark := ⟨Text.trimmed "# RI:10-3", ⟨2, 3⟩, .unattached⟩
  have hr : remarksOf doc.comments = [remark] := List.mergeSort_singleton remark
  have hc : p.commentary doc draft = ⟨draft.sections, [remark]⟩ :=
    congrArg (Commentary.mk draft.sections) hr
  have he : p.publish doc = .ok (p.finish doc draft) := rfl
  have he' : (p.excluding exclude).publish doc = .ok ((p.excluding exclude).finish doc draft) := rfl
  refine ⟨hmono, ?_, ?_, (publish_suppressed p doc).1 exclude hmono⟩
  · rw [he, Except.toOption, Option.bind_some, finish, hc]
    decide +kernel
  · have hc' : (p.excluding exclude).commentary doc draft = p.commentary doc draft := rfl
    rw [he', Except.toOption, Option.bind_some, finish, hc', hc]
    decide +kernel

end Publisher

end LivingDoc
