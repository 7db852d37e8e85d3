import LivingDoc.Proofs.Account
import LivingDoc.Proofs.Association
import LivingDoc.Proofs.Derivation
import LivingDoc.Proofs.Retention

namespace LivingDoc

open Telling

namespace Tagging

def place (hide : TagFilter) (title : String) (r : Reference) (x : List String × List String)
    (tag : String) : Telling (List String × List String) :=
  if hide.matchesTag tag then do
    tell (.tagFound title ⟨r, tag, true⟩)
    return (x.1, x.2 ++ [tag])
  else if x.1.contains tag then return x
  else do
    tell (.tagFound title ⟨r, tag, false⟩)
    return (x.1 ++ [tag], x.2)

def apply (hide : TagFilter) (title : String) (x : List String × List String) (c : Citation) :
    Telling (List String × List String) := do
  let x ← c.themeTag.elim (pure x) (place hide title .theme x)
  match c.story with
  | some story =>
    if x.1.contains ("@B" ++ story) then return x else place hide title .story x ("@B_" ++ story)
  | none => return x

/-- What is done turns one tagging into another one, and exactly its new findings are told. -/
def Notes (title : String) (x : Telling (List String × List String)) (t t' : Tagging) : Prop :=
  ∃ fs, t'.findings = t.findings ++ fs ∧
    Does x (t'.tags, t'.hidden) (fs.map (.tagFound title))

variable {hide : TagFilter} {title : String} {t t' t'' : Tagging}
  {x : Telling (List String × List String)}

theorem Notes.pure : Notes title (Pure.pure (t.tags, t.hidden)) t t :=
  ⟨[], (List.append_nil _).symm, .pure _⟩

theorem Notes.bind {f : List String × List String → Telling (List String × List String)}
    (h : Notes title x t t') (hf : Notes title (f (t'.tags, t'.hidden)) t' t'') :
    Notes title (x >>= f) t t'' := by
  obtain ⟨fs, hfs, hx⟩ := h
  obtain ⟨gs, hgs, hy⟩ := hf
  refine ⟨fs ++ gs, by rw [hgs, hfs, List.append_assoc], ?_⟩
  rw [List.map_append]
  exact hx.bind hy

theorem notes_place (r : Reference) (tag : String) (t : Tagging) :
    Notes title (place hide title r (t.tags, t.hidden) tag) t (t.give hide r tag) := by
  have hfinding (tags : List String) (f : Finding) :
      hidden ⟨tags, t.findings ++ [f]⟩ = t.hidden ++ if f.hidden then [f.tag] else [] := by
    cases hf : f.hidden <;> simp [hidden, hf]
  rw [place, give]
  split
  · refine ⟨[⟨r, tag, true⟩], rfl, ?_⟩
    rw [hfinding, if_pos rfl]
    exact .tell_bind (.pure _)
  · split
    · exact .pure
    · refine ⟨[⟨r, tag, false⟩], rfl, ?_⟩
      rw [hfinding, if_neg Bool.false_ne_true, List.append_nil]
      exact .tell_bind (.pure _)

theorem notes_apply (c : Citation) (t : Tagging) :
    Notes title (apply hide title (t.tags, t.hidden) c) t (t.cite hide c) := by
  have htheme : Notes title
      (c.themeTag.elim (pure (t.tags, t.hidden)) (place hide title .theme (t.tags, t.hidden))) t
      ((c.themeTag.map (t.give hide .theme)).getD t) := by
    cases c.themeTag with
    | none => exact .pure
    | some tag => exact notes_place .theme tag t
  refine htheme.bind ?_
  rw [cite, Citation.formerStoryTag, Citation.storyTag]
  cases c.story with
  | none => exact .pure
  | some story =>
    dsimp only [Option.map_some, Option.any_some, Option.getD_some]
    split
    · exact .pure
    · exact notes_place .story _ _

theorem notes_foldlM (hide : TagFilter) (title : String) (remarks : List Remark) (t : Tagging) :
    Notes title
      (remarks.foldlM (fun x r ↦ apply hide title x (.ofText r.text)) (t.tags, t.hidden)) t
      (t.read hide remarks) := by
  induction remarks generalizing t with
  | nil => exact .pure
  | cons r remarks ih =>
    rw [List.foldlM_cons, read, List.foldl_cons]
    exact (notes_apply _ t).bind (ih _)

end Tagging

namespace Commentary

def derive (hide : TagFilter) (x : Commentary × List (List String)) (k : Nat) :
    Telling (Commentary × List (List String)) :=
  match x.1.sections[k]? with
  | none => return x
  | some s => do
    let t ← (x.1.around k s).foldlM
      (fun x r ↦ Tagging.apply hide s.title x (.ofText r.text)) (s.tags, [])
    return ({ x.1 with sections := x.1.sections.set k { s with tags := t.1 } }, x.2 ++ [t.2])

def found (hide : TagFilter) (c : Commentary) (k : Nat) : List Event :=
  (c.sections[k]?.map fun s ↦
    ((Tagging.start s.tags).read hide (c.around k s)).findings.map (.tagFound s.title)).getD []

variable {hide : TagFilter} {c : Commentary} {n : Nat} {x : Commentary × List (List String)}

theorem Underway.does_derive (h : Underway hide c n x) (hn : n < c.sections.length) :
    Does (derive hide x n) (Commentary.tagSection hide x n) (c.found hide n) := by
  have hs := List.getElem?_eq_getElem hn
  have hx := (h.left n (Nat.le_refl n)).trans hs
  rw [derive, Commentary.tagSection, found, hx, hs]
  dsimp only
  obtain ⟨fs, hfs, ht⟩ := Tagging.notes_foldlM hide c.sections[n].title
    (x.1.around n c.sections[n]) (.start c.sections[n].tags)
  rw [h.around_eq] at hfs ht ⊢
  rw [Option.map_some, Option.getD_some, hfs, ← List.append_nil (List.map _ _)]
  exact ht.bind (.pure _)

theorem does_derive (hide : TagFilter) (c : Commentary) (hn : n ≤ c.sections.length) :
    Does ((List.range n).foldlM (derive hide) (c, []))
      ((List.range n).foldl (tagSection hide) (c, [])) ((List.range n).flatMap (c.found hide)) := by
  induction n with
  | zero => exact .pure _
  | succ n ih =>
    rw [List.range_succ, List.foldlM_append, List.foldl_append, List.flatMap_append]
    refine (ih (Nat.le_of_succ_le hn)).bind ?_
    simpa using (underway_foldl hide c (Nat.le_of_succ_le hn)).does_derive hn

end Commentary

namespace Publisher

variable (p : Publisher)

def deriveAll (c : Commentary) : Telling (Commentary × List (List String)) :=
  if p.settings.remarks.derives then
    (List.range c.sections.length).foldlM (Commentary.derive p.settings.hide) (c, [])
  else pure (c, c.sections.map fun _ ↦ [])

def keep (feature : String) (kept : List Section) (x : Section × List String) :
    Telling (List Section) :=
  if p.settings.exclude.matchesAny (x.2 ++ x.1.tags) then do
    tell (.sectionExcluded feature x.1.title x.1.position.line)
    return kept
  else return kept ++ [x.1]

/-- A page is made step by step, and each event is told when it happens. -/
def assemble (doc : Gherkin.Document) : Telling (Option Page) := do
  let f := doc.feature
  let d := p.drafter f
  let retains := p.settings.remarks.retains
  let background ← liftM (f.background.mapM d.background)
  let remarks := if p.settings.remarks.collects then remarksOf doc.comments else []
  let sections ← liftM (f.children.mapM d.child)
  let c ← remarks.foldlM Commentary.associate ⟨sections, []⟩
  let x ← p.deriveAll c
  let written := List.zipWith (· ++ ·) (f.children.map Gherkin.Child.tags) x.2
  let sections := if retains then x.1.sections else x.1.sections.map Section.silent
  let remarks := if retains then x.1.remarks else []
  let id := p.slugOf f.name
  let sections := sections.map ({ · with owner := some id })
  if p.settings.exclude.matchesAny f.tags then
    tell (.featureExcluded f.name)
    return none
  else
    let kept ← (sections.zip written).foldlM (p.keep f.name) []
    if 0 < sections.length && kept.isEmpty then
      tell (.nothingLeft f.name sections.length)
      return none
    else
      tell (.published f.name kept.length (sections.length - kept.length) remarks.length)
      return some
        { id := id
          title := f.name
          description := f.description.getD ""
          tags := p.settings.hide.visible f.tags
          background := background.map ({ · with owner := some id })
          sections := kept
          remarks := remarks
          language := f.language.getD defaultLanguage }

variable {p} {f : Gherkin.Feature} {c : Commentary}

theorem getElem?_entries (h : f.children.length = c.sections.length) (k : Nat) :
    (p.entries f c)[k]? = c.sections[k]?.map fun s ↦
      ⟨(f.children[k]?.map Gherkin.Child.tags).getD [], s,
        if p.settings.remarks.derives then
          (Tagging.start s.tags).read p.settings.hide (c.around k s)
        else .start s.tags⟩ := by
  have htaggings : (p.taggings c)[k]? = c.sections[k]?.map fun s ↦
      if p.settings.remarks.derives then (Tagging.start s.tags).read p.settings.hide (c.around k s)
      else .start s.tags := by
    rw [taggings]
    split
    · exact c.getElem?_taggings_around p.settings.hide k
    · rw [List.getElem?_map]
  rw [entries, List.getElem?_zipWith, List.zip, List.getElem?_zipWith, htaggings]
  cases hs : c.sections[k]? with
  | none => cases f.children[k]? <;> rfl
  | some s =>
    have hk : k < f.children.length := h ▸ (List.getElem?_eq_some_iff.mp hs).1
    rw [List.getElem?_eq_getElem hk]
    rfl

theorem flatMap_range {α β : Type} (l : List α) (g : α → List β) :
    (List.range l.length).flatMap (fun k ↦ (l[k]?.map g).getD []) = l.flatMap g := by
  induction l with
  | nil => rfl
  | cons a l ih =>
    rw [List.length_cons, List.range_succ_eq_map, List.flatMap_cons, List.flatMap_map,
      List.flatMap_cons, ← ih]
    rfl

theorem length_entries (h : f.children.length = c.sections.length) :
    (p.entries f c).length = c.sections.length := by
  have hentries := getElem?_entries (p := p) h
  refine Nat.le_antisymm (List.getElem?_eq_none_iff.mp ?_) (List.getElem?_eq_none_iff.mp ?_)
  · rw [hentries, List.getElem?_eq_none (Nat.le_refl _), Option.map_none]
  · rw [← Option.map_eq_none_iff, ← hentries, List.getElem?_eq_none (Nat.le_refl _)]

theorem findings_entries (h : f.children.length = c.sections.length)
    (hd : p.settings.remarks.derives = true) : (p.entries f c).flatMap Entry.findings =
      (List.range c.sections.length).flatMap (c.found p.settings.hide) := by
  have hfound : (fun k ↦ ((p.entries f c)[k]?.map Entry.findings).getD []) =
      c.found p.settings.hide := by
    funext k
    rw [Commentary.found, getElem?_entries h, Option.map_map, hd]
    rfl
  rw [← flatMap_range, length_entries h, hfound]

theorem findings_entries_of_not (h : f.children.length = c.sections.length)
    (hd : p.settings.remarks.derives = false) : (p.entries f c).flatMap Entry.findings = [] := by
  refine List.flatMap_eq_nil_iff.mpr fun e he ↦ ?_
  obtain ⟨k, hk⟩ := List.mem_iff_getElem?.mp he
  rw [getElem?_entries h, hd] at hk
  obtain ⟨s, -, rfl⟩ := Option.map_eq_some_iff.mp hk
  rfl

/-- What an entry is judged by besides the tags of its section, from what was kept off each. -/
theorem written_entries (h : f.children.length = c.sections.length) {hidden : List (List String)}
    (hhidden : ∀ k : Nat, hidden[k]? = (p.entries f c)[k]?.map fun e ↦ e.tagging.hidden) :
    List.zipWith (· ++ ·) (f.children.map Gherkin.Child.tags) hidden =
      (p.entries f c).map fun e ↦ e.written ++ e.tagging.hidden := by
  refine List.ext_getElem? fun k ↦ ?_
  rw [List.getElem?_zipWith, List.getElem?_map, List.getElem?_map, hhidden, getElem?_entries h]
  cases hs : c.sections[k]? with
  | none => cases f.children[k]? <;> rfl
  | some s =>
    have hk : k < f.children.length := h ▸ (List.getElem?_eq_some_iff.mp hs).1
    rw [List.getElem?_eq_getElem hk]
    rfl

theorem does_deriveAll (h : f.children.length = c.sections.length) :
    ∃ x, Does (p.deriveAll c) x ((p.entries f c).flatMap Entry.findings) ∧
      x.1.remarks = c.remarks ∧
      x.1.sections = (p.entries f c).map (fun e ↦ { e.draft with tags := e.tagging.tags }) ∧
      List.zipWith (· ++ ·) (f.children.map Gherkin.Child.tags) x.2 =
        (p.entries f c).map fun e ↦ e.written ++ e.tagging.hidden := by
  rw [deriveAll]
  cases hd : p.settings.remarks.derives with
  | true =>
    have hdoes := Commentary.does_derive p.settings.hide c (Nat.le_refl _)
    rw [(Commentary.underway_foldl _ c (Nat.le_refl _)).eq_tagged] at hdoes
    refine ⟨(c.tagged p.settings.hide, (c.taggings p.settings.hide).map Tagging.hidden), ?_, rfl,
      List.ext_getElem? fun k ↦ ?_, written_entries h fun k ↦ ?_⟩
    · rwa [findings_entries h hd]
    · rw [Commentary.getElem?_tagged_around, List.getElem?_map, getElem?_entries h, Option.map_map,
        hd]
      rfl
    · rw [List.getElem?_map, Commentary.getElem?_taggings_around, getElem?_entries h,
        Option.map_map, Option.map_map, hd]
      rfl
  | false =>
    refine ⟨(c, c.sections.map fun _ ↦ []), ?_, rfl, List.ext_getElem? fun k ↦ ?_,
      written_entries h fun k ↦ ?_⟩
    · rw [findings_entries_of_not h hd]
      exact .pure _
    · rw [List.getElem?_map, getElem?_entries h, Option.map_map, hd]
      cases c.sections[k]? <;> rfl
    · rw [List.getElem?_map, getElem?_entries h, Option.map_map, hd]
      rfl

theorem does_keep (feature : String) {g : Entry → Section} (hg : ∀ e, (g e).tags = e.tagging.tags ∧
    (g e).title = e.draft.title ∧ (g e).position = e.draft.position) (es : List Entry) :
    Does
      (((es.map g).zip (es.map fun e ↦ e.written ++ e.tagging.hidden)).foldlM (p.keep feature) [])
      ((es.filter fun e ↦ !p.excludes e).map g)
      ((es.filter p.excludes).map fun e ↦
        .sectionExcluded feature e.draft.title e.draft.position.line) := by
  rw [List.zip_map', List.foldlM_map]
  have hstep (es : List Entry) (e : Entry) :
      Does (p.keep feature ((es.filter fun e ↦ !p.excludes e).map g)
          (g e, e.written ++ e.tagging.hidden))
        (((es ++ [e]).filter fun e ↦ !p.excludes e).map g)
        (if p.excludes e then [.sectionExcluded feature e.draft.title e.draft.position.line]
          else []) := by
    obtain ⟨htags, htitle, hposition⟩ := hg e
    rw [keep, htags, htitle, hposition]
    change Does (if p.excludes e then _ else _) _ _
    rw [List.filter_append, List.map_append]
    cases he : p.excludes e with
    | true =>
      rw [List.filter_cons_of_neg (by simp [he]), List.filter_nil, List.map_nil, List.append_nil]
      exact .tell_bind (.pure _)
    | false =>
      rw [List.filter_cons_of_pos (by simp [he]), List.filter_nil]
      exact .pure _
  have hloop := Does.foldlM (f := fun kept e ↦
    p.keep feature kept (g e, e.written ++ e.tagging.hidden)) _ _ es fun bs e _ ↦ hstep bs e
  have hlosses : ((es.filter p.excludes).map fun e ↦
      Event.sectionExcluded feature e.draft.title e.draft.position.line) = es.flatMap fun e ↦
        if p.excludes e then [.sectionExcluded feature e.draft.title e.draft.position.line]
        else [] := by
    clear hloop
    induction es with
    | nil => rfl
    | cons e es ih =>
      rw [List.flatMap_cons, ← ih]
      cases he : p.excludes e <;> simp [he]
  rw [hlosses]
  exact hloop

variable {doc : Gherkin.Document}

theorem map_onPage (es : List Entry) (id : String) (retains : Bool) :
    (if retains then es.map (fun e ↦ { e.draft with tags := e.tagging.tags })
      else (es.map fun e ↦ { e.draft with tags := e.tagging.tags }).map Section.silent).map
      ({ · with owner := some id }) = es.map (·.onPage id retains) := by
  cases retains <;> simp [Entry.onPage, Section.silent]

theorem does_assemble (draft : Draft)
    (hb : doc.feature.background.mapM (p.drafter doc.feature).background = .ok draft.background)
    (hs : doc.feature.children.mapM (p.drafter doc.feature).child = .ok draft.sections) :
    Does (p.assemble doc) (p.finish doc draft).page (p.finish doc draft).events := by
  have hdraft : (p.drafter doc.feature).feature doc.feature = .ok draft := by
    rw [Drafter.feature, hb, hs]
    rfl
  have hlength :
      doc.feature.children.length = (p.commentary doc draft).attached.sections.length := by
    rw [Commentary.length_attached]
    exact (Drafter.forall₂_sections hdraft).length_eq
  obtain ⟨⟨⟨sections, remarks⟩, hidden⟩, hx, hremarks, hsections, hwritten⟩ :=
    does_deriveAll (p := p) hlength
  dsimp only at hremarks hsections hwritten
  rw [finish, List.append_assoc]
  refine .lift_bind hb (.lift_bind hs ((p.commentary doc draft).does_attached.bind (hx.bind ?_)))
  dsimp only
  rw [hwritten, hsections, map_onPage, hremarks, edit]
  split
  · exact .tell_bind (.pure _)
  · generalize p.entries doc.feature (p.commentary doc draft).attached = es
    let id := p.slugOf doc.feature.name
    let retains := p.settings.remarks.retains
    have hkeep := does_keep (p := p) doc.feature.name (g := (·.onPage id retains))
      (fun e ↦ ⟨rfl, rfl, rfl⟩) es
    have htotal : es.length - (es.filter fun e ↦ !p.excludes e).length =
        (es.filter p.excludes).length := by
      rw [List.length_eq_length_filter_add p.excludes, Nat.add_sub_cancel]
    have hempty : decide (0 < es.length) = !es.isEmpty := by cases es <;> rfl
    dsimp only
    by_cases hn : (!es.isEmpty && (es.filter fun e ↦ !p.excludes e).isEmpty) = true
    · rw [if_pos hn]
      refine hkeep.bind ?_
      simp only [List.length_map, List.isEmpty_map, hempty, if_pos hn]
      exact .tell_bind (.pure _)
    · rw [if_neg hn]
      refine hkeep.bind ?_
      simp only [List.length_map, List.isEmpty_map, hempty, if_neg hn, htotal]
      exact .tell_bind (.pure _)

/-- Making a page step by step comes to the same page, and the events that it tells are the same in
the same order, also where it is refused. -/
theorem run_assemble (p : Publisher) (doc : Gherkin.Document) :
    (p.assemble doc).run.run [] = ((p.publish doc).map Edition.page, p.events doc) := by
  rw [assemble, events, publish, Drafter.feature]
  dsimp only
  cases hb : doc.feature.background.mapM (p.drafter doc.feature).background with
  | error err => rfl
  | ok background =>
    cases hs : doc.feature.children.mapM (p.drafter doc.feature).child with
    | error err => rfl
    | ok sections =>
      have hrun := does_assemble ⟨background, sections⟩ hb hs []
      rw [assemble] at hrun
      dsimp only at hrun
      rw [hb, hs] at hrun
      exact hrun

end Publisher

end LivingDoc
